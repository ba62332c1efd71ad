import ServiceClient.Double.Text
import ServiceClient.Text.Quoted
import ServiceClient.TypeScript.Lexical
import ServiceClient.Validation.Checked

namespace ServiceClient.Validation

variable {α : Type}

def decoded? (data : List UInt8) : Option String := String.fromUTF8? ⟨data.toArray⟩

def text : Value → Checked String
  | .text s => .accepted s
  | .bytes data => match decoded? data with
    | some s => .accepted s
    | none => .reject .notUnicode
  | _ => .reject .notText

def nonEmptyText (v : Value) : Checked String :=
  (text v).andThen fun s => if s = "" then .reject .emptyText else .accepted s

def identifier (v : Value) : Checked String :=
  (nonEmptyText v).andThen fun s =>
    if TypeScript.isIdentifier s then .accepted s else .reject .notIdentifier

def path : Value → Checked String
  | .text s => .accepted s
  | _ => .reject .notPath

def trueTexts : List String := ["1", "true", "t", "yes", "y", "on"]

def falseTexts : List String := ["0", "false", "f", "no", "n", "off"]

def wordEnd : Nat := 0x8000000000000000

def boolOfWord (s : String) : Checked Bool :=
  let word := String.ofList (s.toList.map Char.toLower)
  if word ∈ trueTexts then .accepted true
  else if word ∈ falseTexts then .accepted false
  else .reject .unreadableBool

def boolOfInt (n : Int) : Checked Bool :=
  if n = 0 then .accepted false
  else if n = 1 then .accepted true
  -- A number of more than 64 bits counts as no number at all.
  else if -wordEnd ≤ n ∧ n < wordEnd then .reject .unreadableBool
  else .reject .notBool

def bool : Value → Checked Bool
  | .bool b => .accepted b
  | .int n => boolOfInt n
  | .number (.finite negative mantissa exponent) =>
    if exponent < 0 ∨ 63 ≤ mantissa.log2 + exponent then .reject .notBool
    else
      let n : Int := (mantissa * Nat.pow 2 exponent.toNat : Nat)
      boolOfInt (if negative then -n else n)
  | .text s => boolOfWord s
  | .bytes data => match decoded? data with
    | some s => boolOfWord s
    | none => .reject .unreadableBool
  | _ => .reject .notBool

def nullable (read : Value → Checked α) : Value → Checked (Option α)
  | .null => .accepted none
  | v => (read v).map some

def choice (ofName? : String → Option α) (otherwise : Problem) : Value → Checked α
  | .text s => match ofName? s with
    | some a => .accepted a
    | none => .reject otherwise
  | _ => .reject otherwise

def eachFrom (read : Value → Checked α) (i : Int) : List Value → Checked (List α)
  | [] => .accepted []
  | v :: vs => List.cons <$> (read v).under (.index i) <*> eachFrom read (i + 1) vs

def list (read : Value → Checked α) (v : Value) : Checked (List α) :=
  match v.items? with
  | some items => eachFrom read 0 items
  | none => .reject .notList

def textSet (v : Value) : Checked (List String) :=
  match v.items? with
  | some items => (eachFrom text 0 items).map List.eraseDups
  | none => .reject .notSet

def keyStep : Value → Step
  | .text s => .field s
  | .int n => if -wordEnd ≤ n ∧ n < wordEnd then .index n else .field (toString n)
  | .bool b => .index (if b then 1 else 0)
  | .number x => .field x.text
  | .bytes data => .field (Text.quotedBytes data)
  | .moment m => .field m.text
  | _ => .field "None"

def eachText : List (Value × Value) → Checked (List (String × String))
  | [] => .accepted []
  | (k, v) :: entries =>
    let key := ((text k).under (.field "[key]")).under (keyStep k)
    List.cons <$> (Prod.mk <$> key <*> (text v).under (keyStep k)) <*> eachText entries

def textMapping (v : Value) : Checked (List (String × String)) :=
  match v.entries? with
  | some entries => eachText entries
  | none => .reject .notMapping

def field (entries : List (Value × Value)) (name : String) (read : Value → Checked α) : Checked α :=
  match Value.get? name entries with
  | some v => (read v).under (.field name)
  | none => (Checked.reject .missing).under (.field name)

def fieldOr (entries : List (Value × Value)) (name : String) (default : α)
    (read : Value → Checked α) : Checked α :=
  match Value.get? name entries with
  | some v => (read v).under (.field name)
  | none => .accepted default

/-- The problem with a key of a record, if there is one. Bytes name a field only next to the text
that names it. -/
def keyProblem? (fields : List String) (entries : List (Value × Value)) : Value → Option Problem
  | .text s => if s ∈ fields then none else some .unexpected
  | .bytes data => match decoded? data with
    | some s =>
      if s ∈ fields ∧ (Value.get? s entries).isSome then none else some .unexpected
    | none => some .keyNotText
  | _ => some .keyNotText

def strangers (fields : List String) (entries : List (Value × Value)) : List Issue :=
  entries.filterMap fun e =>
    (keyProblem? fields entries e.1).map fun problem => ⟨[keyStep e.1], problem⟩

def closed (fields : List String) (entries : List (Value × Value)) (c : Checked α) : Checked α :=
  match strangers fields entries with
  | [] => c
  | issues => Function.const Unit <$> c <*> .rejected issues

def entries (record : String) (v : Value) : Checked (List (Value × Value)) :=
  match v.entries? with
  | some entries => .accepted entries
  | none => .reject (.notRecord record)

end ServiceClient.Validation

import ServiceClient.Text.Blank

namespace ServiceClient.HostType

inductive Token : Type
  | name : String → Token
  | array : Token
  | opening : Token
  | closing : Token
  | comma : Token
  | optional : Token
  deriving DecidableEq

def Token.text : Token → String
  | .name text => text
  | .array => "[]"
  | .opening => "<"
  | .closing => ">"
  | .comma => ","
  | .optional => "?"

def isNameStart (c : Char) : Bool := c.isAlpha || c == '_'

def isNameChar (c : Char) : Bool := c.isAlphanum || c == '_' || c == '.' || c == '`'

namespace Token

def next? : List Char → Option (Token × List Char)
  | [] => none
  | '[' :: ']' :: rest => some (array, rest)
  | '<' :: rest => some (opening, rest)
  | '>' :: rest => some (closing, rest)
  | ',' :: rest => some (comma, rest)
  | '?' :: rest => some (optional, rest)
  | c :: rest =>
    if isNameStart c then
      some (name (.ofList (c :: rest.takeWhile isNameChar)), rest.dropWhile isNameChar)
    else none

theorem length_dropWhile_le (p : Char → Bool) (cs : List Char) :
    (cs.dropWhile p).length ≤ cs.length := (List.dropWhile_suffix p).length_le

theorem length_lt_of_next? {cs rest : List Char} {t : Token} (h : next? cs = some (t, rest)) :
    rest.length < cs.length := by
  revert h
  fun_cases next? cs with
  | case7 c tail _ _ _ _ _ _ =>
    intro h
    obtain ⟨_, rfl⟩ : _ ∧ tail.dropWhile isNameChar = rest := by simpa using h
    have := length_dropWhile_le isNameChar tail
    simp
    omega
  | _ => simp_all; try omega

def scanFrom (position : Nat) (cs : List Char) : Except Nat (List Token) :=
  if cs = [] then .ok []
  else
    match _h : next? (cs.dropWhile Text.isBlank) with
    | none => .error position
    | some (t, rest) => do
      let ts ← scanFrom (position + (cs.length - rest.length)) rest
      return t :: ts
termination_by cs.length
decreasing_by
  have := length_lt_of_next? _h
  have := length_dropWhile_le Text.isBlank cs
  omega

def scan (text : String) : Except Nat (List Token) :=
  scanFrom 0 (Text.stripEnd Text.isBlank text.toList)

end Token

end ServiceClient.HostType

import ServiceClient.Text.Base64
import ServiceClient.Text.Numeral
import ServiceClient.Value
import ServiceClient.Yaml.Instant
import ServiceClient.Yaml.Tag

namespace ServiceClient.Yaml.Scalar

def dropLow (text : String) : List Char := text.toList.filter (· ≠ '_')

def signed (cs : List Char) : Except Fault (Bool × List Char) :=
  match cs with
  | [] => .error .emptyNumber
  | '-' :: cs => .ok (true, cs)
  | '+' :: cs => .ok (false, cs)
  | cs => .ok (false, cs)

def whole? : List Char → Option Int
  | '0' :: 'b' :: digits => Text.Numeral.int? 2 digits
  | '0' :: 'x' :: digits => Text.Numeral.int? 16 digits
  | '0' :: digits => Text.Numeral.int? 8 ('0' :: digits)
  | cs =>
    if ':' ∈ cs then
      (Tag.colonParts cs).foldlM (fun n part => (Text.Numeral.int? 10 part).map (60 * n + ·)) 0
    else Text.Numeral.int? 10 cs

def int (text : String) : Except Fault Value := do
  let (negative, cs) ← signed (dropLow text)
  if cs = [] then throw .emptyNumber
  match whole? cs with
  | some n => return .int (if negative then -n else n)
  | none => throw .outOfRange

def sixtieths (weight : Nat) (sum : Double) : List Double → Except Fault Double
  | [] => .ok sum
  | part :: parts =>
    match Double.ofNat weight with
    | .infinite _ => .error .tooLarge
    -- Rounded in every step, so that the order of the parts matters.
    | w => sixtieths (60 * weight) (sum + part * w) parts

def broken (cs : List Char) : Except Fault Double := do
  if ':' ∈ cs then
    match (Tag.colonParts cs).mapM Text.Numeral.double? with
    | some parts => sixtieths 1 (.ofNat 0) parts.reverse
    | none => throw .outOfRange
  else match Text.Numeral.double? cs with
    | some x => return x
    | none => throw .outOfRange

def arising (origin : Nat) : Double → Double
  | .undefined _ => .undefined (some origin)
  | x => x

def float (origin : Nat) (text : String) : Except Fault Value := do
  let (negative, cs) ← signed ((dropLow text).map Char.toLower)
  let x ←
    if cs = ".inf".toList then pure (.infinite false)
    else if cs = ".nan".toList then return .number (.undefined none)
    else (broken cs).map (arising origin)
  return .number (if negative then x.negate else x)

def bool (text : String) : Except Fault Value :=
  match Tag.boolWords.lookup (.ofList (text.toList.map Char.toLower)) with
  | some b => .ok (.bool b)
  | none => .error .unknownWord

def bytes (text : String) : Except Fault Value :=
  if text.toList.all fun c => c.toNat < 0x80 then
    match Text.Base64.decode? text.toList with
    | some data => .ok (.bytes data)
    | none => .error .malformed
  else .error .malformed

def moment (text : String) : Except Fault Value :=
  let cs := text.toList
  match Instant.read? (if cs.getLast? = some '\n' then cs.dropLast else cs) with
  | none => .error .notMoment
  | some w => match w.moment? with
    | some m => .ok (.moment m)
    | none => .error .outOfRange

def value (tag : Tag) (origin : Nat) (text : String) : Except Fault Value :=
  match tag with
  | .null => .ok .null
  | .bool => bool text
  | .int => int text
  | .float => float origin text
  | .text => .ok (.text text)
  | .bytes => bytes text
  | .moment => moment text
  | .sequence | .mapping | .set | .pairs | .merge | .default | .other => .error .malformed

end ServiceClient.Yaml.Scalar

import ServiceClient.Text.Digit
import ServiceClient.Text.Word

namespace ServiceClient.Logging.Layout

def after? (p : Char → Bool) (cs : List Char) : Option (List Char) :=
  if (cs.head?).any p then some (cs.dropWhile p) else none

def isEnd (cs : List Char) : Bool := cs = [] || cs = ['\n']

def afterWidth? : List Char → Option (List Char)
  | '*' :: cs => some cs
  | cs => after? Text.isDigit cs

def afterField? : List Char → Option (List Char)
  | '(' :: cs => do
    match ← after? Text.isWordChar cs with
    | ')' :: cs => return cs
    | _ => none
  | _ => none

def afterPrecision (cs : List Char) : List Char :=
  match cs with
  | '.' :: rest => (afterWidth? rest).getD cs
  | _ => cs

def endsConversion (cs : List Char) : Bool :=
  match cs with
  | c :: _ => "diouxefgcrsa%".toList.contains c.toLower
  | [] => false

def isConversion (cs : List Char) : Bool :=
  match afterField? cs with
  | some cs =>
    let cs := cs.dropWhile "#0+ -".toList.contains
    endsConversion (afterPrecision ((afterWidth? cs).getD cs))
  | none => false

def hasConversion : List Char → Bool
  | [] => false
  | '%' :: cs => isConversion cs || hasConversion cs
  | _ :: cs => hasConversion cs

structure Field where
  name : List Char
  conversion : Option Char := none
  shape : List Char := []

def fieldName : List Char → (inside : Bool) → Option (List Char × List Char)
  | [], _ => none
  -- A square bracket hides whatever it encloses.
  | c :: cs, true => (fieldName cs (c ≠ ']')).map fun r => (c :: r.1, r.2)
  | '\x7b' :: _, false => none
  | c :: cs, false =>
    if c = '}' ∨ c = ':' ∨ c = '!' then some ([], c :: cs)
    else (fieldName cs (c = '[')).map fun r => (c :: r.1, r.2)

def fieldShape : List Char → (depth : Nat) → Option (List Char × List Char)
  | [], _ => none
  | '}' :: cs, 0 => some ([], cs)
  | c :: cs, depth =>
    let depth := if c = '\x7b' then depth + 1 else if c = '}' then depth - 1 else depth
    (fieldShape cs depth).map fun r => (c :: r.1, r.2)

def field? (cs : List Char) : Option (Field × List Char) := do
  match ← fieldName cs false with
  | (name, '!' :: c :: '}' :: cs) => return ({ name, conversion := c }, cs)
  | (name, '!' :: c :: ':' :: cs) =>
    let (shape, cs) ← fieldShape cs 0
    return ({ name, conversion := c, shape }, cs)
  | (name, ':' :: cs) =>
    let (shape, cs) ← fieldShape cs 0
    return ({ name, shape }, cs)
  | (name, '}' :: cs) => return ({ name }, cs)
  | _ => none

def fields? : Nat → List Char → Option (List Field)
  | 0, _ => none
  | _, [] => some []
  | fuel + 1, c :: cs =>
    if c = '\x7b' then
      if cs.head? = some c then fields? fuel (cs.drop 1)
      else do
        let (f, cs) ← field? cs
        return f :: (← fields? fuel cs)
    else if c = '}' then if cs.head? = some c then fields? fuel (cs.drop 1) else none
    else fields? fuel cs

def areParts : Nat → List Char → Bool
  | 0, _ => false
  | fuel + 1, cs =>
    isEnd cs || match cs with
      | '.' :: cs => match after? Text.isWordChar cs with
        | some cs => areParts fuel cs
        | none => false
      | '[' :: cs => match after? (· ≠ ']') cs with
        | some (']' :: cs) => areParts fuel cs
        | _ => false
      | _ => false

def isFieldName (cs : List Char) : Bool :=
  match after? Text.isWordChar cs with
  | some cs => areParts (cs.length + 1) cs
  | none => false

def afterInnerWidth? (cs : List Char) : Option (List Char) :=
  match cs with
  | '\x7b' :: rest => match after? Text.isWordChar rest with
    | some ('}' :: rest) => some rest
    | _ => none
  | _ => after? Text.isDigit cs

def afterOne (chars : String) (cs : List Char) : List Char :=
  match cs with
  | c :: rest => if chars.toList.contains c then rest else cs
  | [] => []

def isUnalignedShape (cs : List Char) : Bool :=
  let cs := afterOne "0" (afterOne "#" (afterOne "+ -" cs))
  let cs := afterOne ",_" ((afterInnerWidth? cs).getD cs)
  let cs := match cs with
    | '.' :: rest => (afterInnerWidth? rest).getD cs
    | _ => cs
  isEnd (afterOne "bcdefgnosxBCDEFGNOSX%" cs)

def isAlignment (c : Char) : Bool := "<=>^".toList.contains c

def isShape (cs : List Char) : Bool :=
  isUnalignedShape cs || match cs with
    | a :: b :: rest =>
      (isAlignment a && isUnalignedShape (b :: rest))
        || (a != '\n' && isAlignment b && isUnalignedShape rest)
    | [a] => isAlignment a
    | [] => false

def Field.isFine (f : Field) : Bool :=
  (f.name = [] || isFieldName f.name)
    && f.conversion.all (fun c => "rsa".toList.contains c)
    && (f.shape = [] || isShape f.shape)

def hasFields (cs : List Char) : Bool :=
  match fields? (cs.length + 1) cs with
  | some fields => fields.all Field.isFine && fields.any fun f => f.name ≠ []
  | none => false

def isNameStart (c : Char) : Bool := c.isAlpha || c == '_'

def isNameChar (c : Char) : Bool := c.isAlphanum || c == '_'

def hasNames : Nat → List Char → (found : Bool) → Bool
  | 0, _, _ => false
  | _, [], found => found
  | fuel + 1, '$' :: cs, found => match cs with
    | '$' :: cs => hasNames fuel cs found
    | '\x7b' :: c :: cs =>
      if isNameStart c then match cs.dropWhile isNameChar with
        | '}' :: cs => hasNames fuel cs true
        | _ => false
      else false
    | c :: cs => isNameStart c && hasNames fuel (cs.dropWhile isNameChar) true
    | [] => false
  | fuel + 1, _ :: cs, found => hasNames fuel cs found

def styles : List (String × (List Char → Bool)) :=
  [("%", hasConversion), ("\x7b", hasFields), ("$", fun cs => hasNames (cs.length + 1) cs false)]

end ServiceClient.Logging.Layout

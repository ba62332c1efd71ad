import ServiceClient.Yaml.Cursor

namespace ServiceClient.Yaml

inductive Tag : Type
  | null : Tag
  | bool : Tag
  | int : Tag
  | float : Tag
  | text : Tag
  | bytes : Tag
  | moment : Tag
  | sequence : Tag
  | mapping : Tag
  | set : Tag
  | pairs : Tag
  | merge : Tag
  | default : Tag
  | other : Tag
  deriving DecidableEq

namespace Tag

def languageStart : String := "tag:yaml.org,2002:"

def ofAddress (address : String) : Tag :=
  let names : List (String × Tag) :=
    [("null", .null), ("bool", .bool), ("int", .int), ("float", .float), ("str", .text),
      ("binary", .bytes), ("timestamp", .moment), ("seq", .sequence), ("map", .mapping),
      ("set", .set), ("omap", .pairs), ("pairs", .pairs), ("merge", .merge), ("value", .default)]
  ((names.map fun n => (languageStart ++ n.1, n.2)).lookup address).getD .other

def boolWords : List (String × Bool) :=
  [("yes", true), ("no", false), ("true", true), ("false", false), ("on", true), ("off", false)]

def spellings (word : String) : List String :=
  let cs := word.toList
  [word, .ofList (cs.take 1 |>.map Char.toUpper |> (· ++ cs.drop 1)), .ofList (cs.map Char.toUpper)]

def nullWords : List String := "" :: "~" :: spellings "null"

def dropSign : List Char → List Char
  | '-' :: cs => cs
  | '+' :: cs => cs
  | cs => cs

def isDigitOrLow (c : Char) : Bool := c.isDigit || c == '_'

def isSixtieth : List Char → Bool
  | [d] => d.isDigit
  | [t, d] => '0' ≤ t && t ≤ '5' && d.isDigit
  | _ => false

def colonParts : List Char → List (List Char)
  | [] => [[]]
  | c :: cs =>
    match c, colonParts cs with
    | ':', parts => [] :: parts
    | c, part :: parts => (c :: part) :: parts
    | c, [] => [[c]]

def areSixtieths (parts : List (List Char)) : Bool := parts ≠ [] && parts.all isSixtieth

def isWholeNumber : List Char → Bool
  | '0' :: 'b' :: cs => cs ≠ [] && cs.all fun c => c == '0' || c == '1' || c == '_'
  | '0' :: 'x' :: cs => cs ≠ [] && cs.all fun c => isHexDigit c || c == '_'
  | '0' :: cs => cs.all fun c => ('0' ≤ c && c ≤ '7') || c == '_'
  | c :: cs =>
    c.isDigit && (cs.all isDigitOrLow || match colonParts cs with
      | first :: parts => first.all isDigitOrLow && areSixtieths parts
      | [] => false)
  | [] => false

def isExponent : List Char → Bool
  | [] => true
  | e :: sign :: digits =>
    (e == 'e' || e == 'E') && (sign == '-' || sign == '+') && digits ≠ [] && digits.all Char.isDigit
  | _ => false

def isFractionTail (cs : List Char) : Bool := isExponent (cs.dropWhile isDigitOrLow)

def startsWithDigit : List Char → Bool
  | c :: _ => c.isDigit
  | [] => false

def isPointed (cs : List Char) : Bool :=
  startsWithDigit cs && match cs.dropWhile isDigitOrLow with
    | '.' :: tail => isFractionTail tail
    | ':' :: rest =>
      let whole := rest.takeWhile (· ≠ '.')
      let tail := rest.dropWhile (· ≠ '.')
      areSixtieths (colonParts whole) && match tail with
        | '.' :: decimals => decimals.all isDigitOrLow
        | _ => false
    | _ => false

def isInfinity (cs : List Char) : Bool := (spellings "inf").any fun s => cs = '.' :: s.toList

def isBrokenNumber (cs : List Char) : Bool :=
  match cs with
  | '.' :: tail => startsWithDigit tail && isFractionTail tail
  | _ => false

def isFloat (cs : List Char) : Bool :=
  isPointed (dropSign cs) || isBrokenNumber cs || isInfinity (dropSign cs)
    || [".nan", ".NaN", ".NAN"].contains (.ofList cs)

end Tag

end ServiceClient.Yaml

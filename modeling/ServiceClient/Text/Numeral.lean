import ServiceClient.Double.Basic
import ServiceClient.Text.Digit

namespace ServiceClient.Text.Numeral

/-- The worth of a digit of any script. Every run of digits begins with a zero. -/
def digitValue? (n : Nat) : Option Nat :=
  (digitRanges.find? fun r => r.1 ≤ n && n ≤ r.2).map fun r => (n - r.1) % 10

def plainChar (c : Char) : Char :=
  if c.toNat < 0x80 then c
  else if isBlank c then ' '
  else match digitValue? c.toNat with
    | some d => Nat.digitChar d
    | none => '?'

def surrounds (c : Char) : Bool := c == ' ' || ('\t' ≤ c && c ≤ '\r')

def bare (cs : List Char) : List Char := strip surrounds (cs.map plainChar)

def splitSign : List Char → Bool × List Char
  | '-' :: cs => (true, cs)
  | '+' :: cs => (false, cs)
  | cs => (false, cs)

def worth? (c : Char) : Option Nat :=
  if c.isDigit then some (c.toNat - '0'.toNat)
  else if c.isLower then some (c.toNat - 'a'.toNat + 10)
  else if c.isUpper then some (c.toNat - 'A'.toNat + 10)
  else none

def maxDigits : Nat := 4300

def mark? (base : Nat) : Option Char := [(2, 'b'), (8, 'o'), (16, 'x')].lookup base

def dropMark (base : Nat) : List Char → List Char
  | '0' :: c :: cs => if mark? base = some c.toLower then cs else '0' :: c :: cs
  | cs => cs

def digits? (base : Nat) (cs : List Char) : Option Nat :=
  if cs = [] || (base = 10 && maxDigits < cs.length) then none
  else cs.foldlM (fun n c => ((worth? c).filter (· < base)).map (base * n + ·)) 0

def int? (base : Nat) (cs : List Char) : Option Int :=
  let (negative, cs) := splitSign (bare cs)
  (digits? base (dropMark base cs)).map fun n => if negative then -(n : Int) else n

def exponent? : List Char → Option Int
  | [] => some 0
  | c :: cs =>
    let (negative, digits) := splitSign cs
    if c.toLower ≠ 'e' ∨ digits = [] ∨ ¬ digits.all Char.isDigit then none
    else
      let n : Int := digits.foldl (fun n c => 10 * n + (c.toNat - '0'.toNat)) (0 : Nat)
      some (if negative then -n else n)

def decimal? (negative : Bool) (cs : List Char) : Option Double := do
  let whole := cs.takeWhile Char.isDigit
  let (decimals, rest) := match cs.dropWhile Char.isDigit with
    | '.' :: tail => (tail.takeWhile Char.isDigit, tail.dropWhile Char.isDigit)
    | rest => ([], rest)
  if whole ++ decimals = [] then none
  let mantissa := (whole ++ decimals).foldl (fun n c => 10 * n + (c.toNat - '0'.toNat)) 0
  return .ofDecimal negative mantissa ((← exponent? rest) - decimals.length)

def double? (cs : List Char) : Option Double :=
  let (negative, cs) := splitSign (bare cs)
  let word := String.ofList (cs.map Char.toLower)
  if word = "inf" ∨ word = "infinity" then some (.infinite negative)
  else if word = "nan" then some (.undefined none)
  else decimal? negative cs

end ServiceClient.Text.Numeral

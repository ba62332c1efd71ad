namespace ServiceClient

/-- A finite number is `mantissa * 2 ^ exponent` with a sign. The mantissa is odd, or zero with the
exponent zero. What is undefined may have an origin, by which it is told from others. -/
inductive Double : Type
  | finite (negative : Bool) (mantissa : Nat) (exponent : Int) : Double
  | infinite (negative : Bool) : Double
  | undefined (origin : Option Nat) : Double
  deriving DecidableEq

namespace Double

def shiftTwos : Nat → Nat → Int → Nat × Int
  | 0, mantissa, exponent => (mantissa, exponent)
  | n + 1, mantissa, exponent =>
    if mantissa % 2 = 0 then shiftTwos n (mantissa / 2) (exponent + 1) else (mantissa, exponent)

def reduced (mantissa : Nat) (exponent : Int) : Nat × Int :=
  if mantissa = 0 then (0, 0) else shiftTwos mantissa.log2 mantissa exponent

def roundDiv (num den : Nat) : Nat :=
  let rest := 2 * (num % den)
  let quotient := num / den
  if den < rest ∨ (rest = den ∧ quotient % 2 = 1) then quotient + 1 else quotient

def scaled (num den : Nat) (exponent : Int) : Nat × Nat :=
  (num * Nat.pow 2 (-exponent).toNat, den * Nat.pow 2 exponent.toNat)

def precision : Nat := 53

def leastExponent : Int := -1074

def exponentEnd : Int := 1024

def lastExponent (num den : Nat) : Int :=
  let exponent : Int := (num.log2 : Int) - den.log2 - precision
  let (n, d) := scaled num den exponent
  max leastExponent (if Nat.pow 2 precision ≤ n / d then exponent + 1 else exponent)

def ofRatio (negative : Bool) (num den : Nat) : Double :=
  if num = 0 then finite negative 0 0
  else
    let exponent := lastExponent num den
    let (n, d) := scaled num den exponent
    let mantissa := roundDiv n d
    if exponentEnd ≤ mantissa.log2 + exponent then infinite negative
    else
      let (mantissa, exponent) := reduced mantissa exponent
      finite negative mantissa exponent

/-- The nearest number to a mantissa with a decimal exponent. One with more than 310 digits before
the point is infinite, and one with more than 330 zeros after it is zero, whatever the digits. -/
def ofDecimal (negative : Bool) (mantissa : Nat) (exponent : Int) : Double :=
  if mantissa = 0 then finite negative 0 0
  else if 310 ≤ exponent + mantissa.log2 / 4 then infinite negative
  else if exponent + mantissa.log2 / 3 < -332 then finite negative 0 0
  else ofRatio negative (mantissa * Nat.pow 10 exponent.toNat) (Nat.pow 10 (-exponent).toNat)

def ofNat (n : Nat) : Double := ofRatio false n 1

def negate : Double → Double
  | finite negative mantissa exponent => finite (!negative) mantissa exponent
  | infinite negative => infinite (!negative)
  | undefined origin => undefined origin

def aligned (negative : Bool) (mantissa : Nat) (exponent least : Int) : Int :=
  let n : Int := (mantissa * Nat.pow 2 (exponent - least).toNat : Nat)
  if negative then -n else n

def round (mantissa exponent : Int) : Double :=
  ofRatio (mantissa < 0) (mantissa.natAbs * Nat.pow 2 exponent.toNat)
    (Nat.pow 2 (-exponent).toNat)

protected def add : Double → Double → Double
  | undefined origin, _ => undefined origin
  | _, undefined origin => undefined origin
  | infinite a, infinite b => if a = b then infinite a else undefined none
  | infinite a, finite .. => infinite a
  | finite .., infinite b => infinite b
  | finite a m e, finite b n f =>
    if a = b ∧ m = 0 ∧ n = 0 then finite a 0 0
    else
      let least := min e f
      round (aligned a m e least + aligned b n f least) least

protected def mul : Double → Double → Double
  | undefined origin, _ => undefined origin
  | _, undefined origin => undefined origin
  | infinite a, infinite b => infinite (a != b)
  | infinite a, finite b n _ => if n = 0 then undefined none else infinite (a != b)
  | finite a m _, infinite b => if m = 0 then undefined none else infinite (a != b)
  | finite a m e, finite b n f =>
    let exponent := e + f
    ofRatio (a != b) (m * n * Nat.pow 2 exponent.toNat) (Nat.pow 2 (-exponent).toNat)

instance : Add Double := ⟨Double.add⟩

instance : Mul Double := ⟨Double.mul⟩

def isZero : Double → Bool
  | finite _ mantissa _ => mantissa = 0
  | _ => false

end Double

end ServiceClient

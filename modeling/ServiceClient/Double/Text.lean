import ServiceClient.Double.Basic

namespace ServiceClient.Double

def shiftTens : Nat → Nat → Int → Nat × Int
  | 0, mantissa, exponent => (mantissa, exponent)
  | n + 1, mantissa, exponent =>
    if mantissa % 10 = 0 then shiftTens n (mantissa / 10) (exponent + 1) else (mantissa, exponent)

def exactly (mantissa : Nat) (exponent : Int) : Nat × Int :=
  if 0 ≤ exponent then (mantissa * Nat.pow 2 exponent.toNat, 0)
  else (mantissa * Nat.pow 5 (-exponent).toNat, exponent)

def neighbours (mantissa drop : Nat) : List Nat :=
  let unit := Nat.pow 10 drop
  let below := mantissa / unit
  let rest := 2 * (mantissa % unit)
  if rest < unit ∨ (rest = unit ∧ below % 2 = 0) then [below, below + 1] else [below + 1, below]

/-- The shortest decimal that reads back as a number, from grids of which each drops one digit less
than the one before. -/
def shortestFrom (value : Double) (mantissa : Nat) (exponent : Int) : Nat → Nat × Int
  | 0 => (mantissa, exponent)
  | drop + 1 =>
    let grid := exponent + (drop + 1 : Nat)
    match (neighbours mantissa (drop + 1)).find? fun n => ofDecimal false n grid = value with
    | some n => (n, grid)
    | none => shortestFrom value mantissa exponent drop

def shortest (mantissa : Nat) (exponent : Int) : Nat × Int :=
  let (m, e) := exactly mantissa exponent
  let (m, e) := shortestFrom (finite false mantissa exponent) m e
    ((Nat.toDigits 10 m).length - 1)
  if m = 0 then (0, 0) else shiftTens (Nat.toDigits 10 m).length m e

def positional (digits : List Char) (point : Int) : List Char :=
  let digits := List.replicate (1 - point).toNat '0' ++ digits
  let places := max 1 point.toNat
  let whole := digits.take places ++ List.replicate (places - digits.length) '0'
  let decimals := digits.drop places
  whole ++ '.' :: if decimals = [] then ['0'] else decimals

def scientific (digits : List Char) (exponent : Int) : List Char :=
  let tens := Nat.toDigits 10 exponent.natAbs
  digits.take 1 ++ (if digits.length ≤ 1 then [] else '.' :: digits.drop 1)
    ++ ['e', if exponent < 0 then '-' else '+'] ++ List.replicate (2 - tens.length) '0' ++ tens

def text : Double → String
  | finite negative mantissa exponent =>
    let (m, e) := shortest mantissa exponent
    let digits := Nat.toDigits 10 m
    let point : Int := digits.length + e
    -- The point is shown from three places before the first digit to sixteen after it.
    .ofList ((if negative then ['-'] else [])
      ++ if -4 < point ∧ point ≤ 16 then positional digits point else scientific digits (point - 1))
  | infinite negative => if negative then "-inf" else "inf"
  | undefined _ => "nan"

end ServiceClient.Double

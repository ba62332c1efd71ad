namespace ServiceClient

inductive Moment : Type
  | day (year month day : Nat) : Moment
  | instant (year month day hour minute second micros : Nat) (offset : Option Int) : Moment
  deriving DecidableEq

namespace Moment

def isLeap (year : Nat) : Bool := year % 4 = 0 && (year % 100 ≠ 0 || year % 400 = 0)

def daysIn (year month : Nat) : Nat :=
  if month = 2 then if isLeap year then 29 else 28
  else if month ∈ [4, 6, 9, 11] then 30
  else 31

def isDay (year month day : Nat) : Bool :=
  1 ≤ year && 1 ≤ month && month ≤ 12 && 1 ≤ day && day ≤ daysIn year month

def dayNumber (year month day : Nat) : Nat :=
  let years := year - 1
  let months := (List.range (month - 1)).map fun m => daysIn year (m + 1)
  years * 365 + years / 4 - years / 100 + years / 400 + months.foldl (· + ·) 0 + day - 1

def common? : Moment → Option Int
  | instant y m d hour minute second micros (some offset) =>
    let seconds : Int := ((dayNumber y m d * 24 + hour) * 60 + minute) * 60 + second
    some ((seconds - offset) * 1000000 + micros)
  | _ => none

def isSame (a b : Moment) : Bool :=
  a = b || (a.common?.isSome && a.common? = b.common?)

def offsetText (seconds : Int) : String :=
  if seconds = 0 then "datetime.timezone.utc"
  else if seconds < 0 then
    s!"datetime.timezone(datetime.timedelta(days=-1, seconds={seconds + 86400}))"
  else s!"datetime.timezone(datetime.timedelta(seconds={seconds}))"

def text : Moment → String
  | day y m d => s!"datetime.date({y}, {m}, {d})"
  | instant y m d hour minute second micros offset =>
    let parts := [y, m, d, hour, minute] ++
      (if micros ≠ 0 then [second, micros] else if second ≠ 0 then [second] else [])
    let zone := (offset.map fun o => ", tzinfo=" ++ offsetText o).getD ""
    "datetime.datetime(" ++ ", ".intercalate (parts.map toString) ++ zone ++ ")"

end Moment

end ServiceClient

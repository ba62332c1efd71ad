import ServiceClient.Moment
import ServiceClient.Yaml.Cursor

namespace ServiceClient.Yaml.Instant

structure Written where
  year : Nat
  month : Nat
  day : Nat
  time : Option (Nat × Nat × Nat × Nat) := none
  offset : Option Int := none

def number (digits : List Char) : Nat := ((String.ofList digits).toNat?).getD 0

def digits? (least most : Nat) (cs : List Char) : Option (Nat × List Char) :=
  let run := (cs.take most).takeWhile Char.isDigit
  if least ≤ run.length then some (number run, cs.drop run.length) else none

def literal? (c : Char) : List Char → Option (List Char)
  | d :: cs => if c = d then some cs else none
  | [] => none

def isBlank (c : Char) : Bool := c == ' ' || c == '\t'

def timeMark? : List Char → Option (List Char)
  | 'T' :: cs => some cs
  | 't' :: cs => some cs
  | c :: cs => if isBlank c then some (cs.dropWhile isBlank) else none
  | [] => none

def micros (decimals : List Char) : Nat :=
  number ((decimals ++ List.replicate 6 '0').take 6)

def offset? : List Char → Option (Option Int)
  | [] => some none
  | ['Z'] => some (some 0)
  | sign :: cs => do
    if sign ≠ '+' ∧ sign ≠ '-' then none
    let (hours, cs) ← digits? 1 2 cs
    let minutes ← match cs with
      | [] => some 0
      | ':' :: cs => match digits? 2 2 cs with
        | some (minutes, []) => some minutes
        | _ => none
      | _ => none
    let seconds : Int := (hours * 60 + minutes) * 60
    return some (if sign = '-' then -seconds else seconds)

def time? (cs : List Char) : Option ((Nat × Nat × Nat × Nat) × List Char) := do
  let (hour, cs) ← digits? 1 2 cs
  let (minute, cs) ← digits? 2 2 (← literal? ':' cs)
  let (second, cs) ← digits? 2 2 (← literal? ':' cs)
  match cs with
  | '.' :: cs =>
    return ((hour, minute, second, micros (cs.takeWhile Char.isDigit)), cs.dropWhile Char.isDigit)
  | _ => return ((hour, minute, second, 0), cs)

def instant? (cs : List Char) : Option Written := do
  let (year, cs) ← digits? 4 4 cs
  let (month, cs) ← digits? 1 2 (← literal? '-' cs)
  let (day, cs) ← digits? 1 2 (← literal? '-' cs)
  let (time, cs) ← time? (← timeMark? cs)
  let offset ← offset? (cs.dropWhile isBlank)
  if offset.isNone ∧ cs ≠ [] then none
  return { year, month, day, time := some time, offset }

def day? (least : Nat) (cs : List Char) : Option Written := do
  let (year, cs) ← digits? 4 4 cs
  let (month, cs) ← digits? least 2 (← literal? '-' cs)
  let (day, cs) ← digits? least 2 (← literal? '-' cs)
  if cs = [] then return { year, month, day } else none

def isMoment (cs : List Char) : Bool := (day? 2 cs).isSome || (instant? cs).isSome

def read? (cs : List Char) : Option Written := day? 1 cs <|> instant? cs

def Written.moment? (w : Written) : Option Moment :=
  match w.time with
  | none => if Moment.isDay w.year w.month w.day then some (.day w.year w.month w.day) else none
  | some (hour, minute, second, micros) =>
    if Moment.isDay w.year w.month w.day && hour < 24 && minute < 60 && second < 60
        && (w.offset.getD 0).natAbs < 86400 then
      some (.instant w.year w.month w.day hour minute second micros w.offset)
    else none

end ServiceClient.Yaml.Instant

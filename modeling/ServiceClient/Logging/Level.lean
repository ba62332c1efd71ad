import ServiceClient.Logging.Names
import ServiceClient.Text.Case
import ServiceClient.Value

namespace ServiceClient.Logging

inductive Threshold : Type
  | number (n : Int) : Threshold
  | truth (b : Bool) : Threshold
  | word (s : String) : Threshold
  deriving DecidableEq

def Threshold.shown : Threshold → Value
  | number n => match levels.find? fun l => (l.2 : Int) = n with
    | some l => .text l.1
    | none => .text s!"Level {n}"
  | truth b => .text (if b then "Level True" else "NOTSET")
  | word s => match levelNumber? s with
    | some n => .int n
    | none => .text ("Level " ++ s)

def Threshold.number? : Threshold → Option Int
  | number n => some n
  | truth b => some (if b then 1 else 0)
  | word _ => none

def info : Nat := 20

inductive OverrideError : Type
  | unknownLevel (level : String) : OverrideError
  | notMapping : OverrideError
  | notSettable : OverrideError
  | notComparable : OverrideError
  deriving DecidableEq

def setLevel (level : String) (place : Value) : Except OverrideError Value :=
  match place.entries? with
  | some entries => .ok (.mapping (Value.insert (.text "level") (.text level) entries))
  | none => .error .notSettable

def setLevels (level : String) : List (Value × Value) → Except OverrideError (List (Value × Value))
  | [] => .ok []
  | (k, v) :: entries => do return (k, ← setLevel level v) :: (← setLevels level entries)

/-- Whether a level is lower than the one that a handler has. What is no name of the library counts
as informative, and names of its parts cannot be compared. -/
def isBelow (number : Nat) : Value → Except OverrideError Bool
  | .text s =>
    match levelNumber? s with
    | some n => .ok (number < n)
    | none =>
      if s ∈ switches then .ok (number < 1)
      else if s = startName then .ok true
      else if s ∈ partNames then .error .notComparable
      else .ok (number < info)
  | _ => .ok (number < info)

def lowerHandler (level : String) (number : Nat) (handler : Value) : Except OverrideError Value :=
  match handler.entries? with
  | some entries => match Value.get? "level" entries with
    | some current => do
      if ← isBelow number current then
        return .mapping (Value.insert (.text "level") (.text level) entries)
      else return handler
    | none => .ok handler
  | none => .ok handler

def lowerHandlers (level : String) (number : Nat) :
    List (Value × Value) → Except OverrideError (List (Value × Value))
  | [] => .ok []
  | (k, v) :: entries => do
    return (k, ← lowerHandler level number v) :: (← lowerHandlers level number entries)

def changeSection (name : String)
    (change : List (Value × Value) → Except OverrideError (List (Value × Value)))
    (config : List (Value × Value)) : Except OverrideError (List (Value × Value)) :=
  match Value.get? name config with
  | none => .ok config
  | some v => match v.entries? with
    | some entries => do
      return Value.insert (.text name) (.mapping (← change entries)) config
    | none => .error .notMapping

def applyLevel (level : String) (config : List (Value × Value)) :
    Except OverrideError (List (Value × Value)) := do
  let name := Text.upper level
  match levelNumber? name with
  | none => throw (.unknownLevel level)
  | some number =>
    let config ← changeSection "loggers" (setLevels name) config
    let config ← match Value.get? "root" config with
      | none => pure config
      | some root => do pure (Value.insert (.text "root") (← setLevel name root) config)
    changeSection "handlers" (lowerHandlers name number) config

end ServiceClient.Logging

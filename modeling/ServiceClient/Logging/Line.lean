import ServiceClient.Logging.Level
import ServiceClient.Logging.LogFile
import ServiceClient.Text.Blank

namespace ServiceClient.Logging

structure Line where
  logger : String
  number : Nat

inductive LineError : Type
  | noOutput : LineError
  | notComparable : LineError
  | notOpened (error : OpenError) : LineError
  deriving DecidableEq

def isNumber : Value → Bool
  | .bool _ | .int _ | .number _ => true
  | _ => false

def isAtMost (n : Int) : Value → Bool
  | .bool b => (if b then 1 else 0) ≤ n
  | .int m => m ≤ n
  | .number (.finite negative mantissa exponent) =>
    let least := min exponent 0
    Double.aligned negative mantissa exponent least ≤ n * (Nat.pow 2 (-least).toNat : Nat)
  | .number (.infinite negative) => negative
  | _ => false

inductive Filter : Type
  | below (name : Value) : Filter
  | unusable : Filter

def length? (v : Value) : Option Nat :=
  match v.opened with
  | .text s => some s.length
  | .bytes data => some data.length
  | .list items | .set items => some items.length
  | .mapping entries => some entries.length
  | _ => none

def Filter.passes (line : Line) : Filter → Except LineError Bool
  | .unusable => .error .notComparable
  | .below (.text name) =>
    .ok (name = "" || line.logger = name || Text.startsWith (name ++ ".") line.logger)
  | .below name => if length? name = some 0 then .ok true else .error .notComparable

def allPass (line : Line) : List Filter → Except LineError Bool
  | [] => .ok true
  | f :: fs => do
    if ← f.passes line then allPass line fs else return false

inductive Output : Type
  | working : Output
  | missing : Output
  | counting (capacity : Value) (high : Option Value) : Output
  | file (f : LogFile) : Output

def Output.write (d : Disk) : Output → Except LineError Unit
  | .working => .ok ()
  | .missing => .error .noOutput
  | .file f => (f.openOn d).mapError .notOpened |>.map fun _ => ()
  | .counting capacity high =>
    if !isNumber capacity then .error .notComparable
    else if isAtMost 1 capacity || high.all isNumber then .ok ()
    else .error .notComparable

structure Handler where
  className : String
  level : Threshold := .number 0
  filters : List Filter := []
  output : Output := .working

def Handler.write (d : Disk) (line : Line) (h : Handler) : Except LineError Unit := do
  match h.level.number? with
  | none => throw .notComparable
  | some level =>
    if level ≤ line.number then
      if ← allPass line h.filters then h.output.write d

end ServiceClient.Logging

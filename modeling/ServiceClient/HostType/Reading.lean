import ServiceClient.HostType.Notation
import ServiceClient.Validation.Reader

namespace ServiceClient.HostType

open Validation

def ofText (s : String) : Checked HostType :=
  match parse s with
  | .ok t => .accepted t
  | .error e => .reject (.refused e.message)

def badText? : List Value → Option String
  | [] => none
  | .text s :: items => match parse s with
    | .ok _ => badText? items
    | .error e => some e.message
  | _ :: items => badText? items

def fields : List String := ["name", "generic_arguments", "is_model"]

def maxNesting : Nat := 255

def either (depth : Nat) (record : Value → Checked HostType) : Value → Checked HostType
  | .text s => if depth = 0 then .reject .cyclic else ofText s
  | v => record v

def argumentsBy (depth : Nat) (record : Value → Checked HostType) (v : Value) :
    Checked (List HostType) :=
  match v.opened with
  -- The texts are read before all items, so a bad one hides what else is wrong with the list.
  | .list items => match badText? items with
    | some message => .reject (.refused message)
    | none => eachFrom (either depth record) 0 items
  | .set items => eachFrom record 0 items
  | _ => .reject .notList

def recordBy (depth : Nat) (record : Value → Checked HostType) (v : Value) : Checked HostType :=
  (entries "TypeDescriptor" v).andThen fun es =>
    closed fields es (HostType.mk <$> field es "name" nonEmptyText
      <*> fieldOr es "generic_arguments" [] (argumentsBy depth record)
      <*> fieldOr es "is_model" false bool)

/-- Reads a record inside the named records `seen`. One that stands inside itself and one that
stands too deep are refused alike, whatever they hold. -/
def recordWithin : (depth : Nat) → (seen : List Nat) → Value → Checked HostType
  | 0, _, _ => .reject .cyclic
  | depth + 1, seen, .knot name v =>
    if name ∈ seen then .reject .cyclic
    else recordBy depth (recordWithin depth (name :: seen)) (.knot name v)
  | depth + 1, seen, v => recordBy depth (recordWithin depth seen) v

def ofRecord (v : Value) : Checked HostType := recordWithin maxNesting [] v

def ofValue (v : Value) : Checked HostType := either maxNesting ofRecord v

end ServiceClient.HostType

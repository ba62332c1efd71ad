import ServiceClient.Value

/-!
Checked reading of values. A check gives a result or all its issues, each with the way to the
place in the value where it arose; `seq` joins the issues of two checks in order.
-/

namespace ServiceClient.Validation

inductive Step : Type
  | field (name : String) : Step
  | index (i : Int) : Step
  deriving DecidableEq

inductive Problem : Type
  | missing : Problem
  | unexpected : Problem
  | keyNotText : Problem
  | notRecord (record : String) : Problem
  | notMapping : Problem
  | notText : Problem
  | notUnicode : Problem
  | emptyText : Problem
  | notIdentifier : Problem
  | notBool : Problem
  | unreadableBool : Problem
  | notList : Problem
  | notSet : Problem
  | notPath : Problem
  | notInEnum (choices : List String) : Problem
  | notLiteral (choices : List String) : Problem
  | cyclic : Problem
  | refused (reason : String) : Problem
  deriving DecidableEq

def listChoices (choices : List String) : String :=
  let quoted := choices.map fun c => "'" ++ c ++ "'"
  match quoted.reverse with
  | [] => ""
  | [only] => only
  | last :: others => ", ".intercalate others.reverse ++ " or " ++ last

namespace Problem

def code : Problem → String
  | missing => "missing"
  | unexpected => "extra_forbidden"
  | keyNotText => "invalid_key"
  | notRecord _ => "model_type"
  | notMapping => "dict_type"
  | notText => "string_type"
  | notUnicode => "string_unicode"
  | emptyText => "string_too_short"
  | notIdentifier => "string_pattern_mismatch"
  | notBool => "bool_type"
  | unreadableBool => "bool_parsing"
  | notList => "tuple_type"
  | notSet => "frozen_set_type"
  | notPath => "path_type"
  | notInEnum _ => "enum"
  | notLiteral _ => "literal_error"
  | cyclic => "recursion_loop"
  | refused _ => "value_error"

def message : Problem → String
  | missing => "Field required"
  | unexpected => "Extra inputs are not permitted"
  | keyNotText => "Keys should be strings"
  | notRecord record => "Input should be a valid dictionary or instance of " ++ record
  | notMapping => "Input should be a valid dictionary"
  | notText => "Input should be a valid string"
  | notUnicode =>
    "Input should be a valid string, unable to parse raw data as a unicode string"
  | emptyText => "String should have at least 1 character"
  | notIdentifier => "String should match pattern '^[A-Za-z_$][A-Za-z0-9_$]*$'"
  | notBool => "Input should be a valid boolean"
  | unreadableBool => "Input should be a valid boolean, unable to interpret input"
  | notList => "Input should be a valid tuple"
  | notSet => "Input should be a valid frozenset"
  | notPath => "Input is not a valid path for <class 'pathlib.Path'>"
  | notInEnum choices | notLiteral choices => "Input should be " ++ listChoices choices
  | cyclic => "Recursion error - cyclic reference detected"
  | refused reason => "Value error, " ++ reason

end Problem

structure Issue where
  location : List Step
  problem : Problem
  deriving DecidableEq

inductive Checked (α : Type) : Type
  | accepted (result : α) : Checked α
  | rejected (issues : List Issue) : Checked α
  deriving DecidableEq

namespace Checked

variable {α β : Type}

def reject (problem : Problem) : Checked α := rejected [⟨[], problem⟩]

def map (f : α → β) : Checked α → Checked β
  | accepted a => accepted (f a)
  | rejected issues => rejected issues

def seq : Checked (α → β) → Checked α → Checked β
  | accepted f, accepted a => accepted (f a)
  | accepted _, rejected issues => rejected issues
  | rejected issues, accepted _ => rejected issues
  | rejected issues, rejected more => rejected (issues ++ more)

instance : Functor Checked := ⟨map, fun a => map fun _ => a⟩

instance : Pure Checked := ⟨accepted⟩

instance : Seq Checked := ⟨fun f a => f.seq (a ())⟩

instance : Applicative Checked where

def andThen (c : Checked α) (f : α → Checked β) : Checked β :=
  match c with
  | accepted a => f a
  | rejected issues => rejected issues

def under (step : Step) : Checked α → Checked α
  | accepted a => accepted a
  | rejected issues => rejected (issues.map fun i => { i with location := step :: i.location })

def toExcept : Checked α → Except (List Issue) α
  | accepted a => .ok a
  | rejected issues => .error issues

end Checked

end ServiceClient.Validation

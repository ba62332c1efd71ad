import ServiceClient.Descriptor
import ServiceClient.Diagnostic
import ServiceClient.HostType.Reading
import ServiceClient.Registry

namespace ServiceClient

open Validation

def Verb.ofValue : Value → Checked (Option Verb)
  | .text s => match Verb.parse s with
    | .ok verb => .accepted (some verb)
    | .error e => .reject (.refused e.message)
  | .null => .accepted none
  | .bytes data => match (decoded? data).bind Verb.ofName? with
    | some verb => .accepted (some verb)
    | none => .reject (.notInEnum (Verb.all.map Verb.name))
  | _ => .reject (.notInEnum (Verb.all.map Verb.name))

def Parameter.fields : List String := ["name", "type"]

def Parameter.ofValue (v : Value) : Checked Parameter :=
  (entries "ParameterDescriptor" v).andThen fun es =>
    closed fields es (Parameter.mk <$> field es "name" nonEmptyText
      <*> field es "type" HostType.ofValue)

def Method.fields : List String :=
  ["name", "parameters", "return_type", "verb", "visibility", "is_static", "declaring_type"]

def Method.ofValue (v : Value) : Checked Method :=
  (entries "MethodDescriptor" v).andThen fun es =>
    closed fields es (Method.mk <$> field es "name" nonEmptyText
      <*> fieldOr es "parameters" [] (list Parameter.ofValue)
      <*> fieldOr es "return_type" { name := "Void" } HostType.ofValue
      <*> fieldOr es "verb" none Verb.ofValue
      <*> fieldOr es "visibility" "public" text
      <*> fieldOr es "is_static" false bool
      <*> fieldOr es "declaring_type" none (nullable text))

def Controller.fields : List String := ["name", "methods"]

def Controller.ofValue (v : Value) : Checked Controller :=
  (entries "ControllerDescriptor" v).andThen fun es =>
    closed fields es (Controller.mk <$> field es "name" nonEmptyText
      <*> fieldOr es "methods" [] (list Method.ofValue))

def Registry.fields : List String := ["models"]

def Registry.ofValue (v : Value) : Checked Registry :=
  (entries "ModelRegistry" v).andThen fun es =>
    closed fields es (Registry.mk <$> fieldOr es "models" [] textSet)

def Diagnostic.ofValue (v : Value) : Checked Diagnostic :=
  (entries "Diagnostic" v).andThen fun es =>
    Diagnostic.mk
      <$> field es "kind" (choice Kind.ofName? (.notInEnum (Kind.all.map Kind.name)))
      <*> fieldOr es "severity" .warning
        (choice Severity.ofName? (.notInEnum (Severity.all.map Severity.name)))
      <*> field es "controller" text
      <*> fieldOr es "method" none (nullable text)
      <*> field es "message" text

end ServiceClient

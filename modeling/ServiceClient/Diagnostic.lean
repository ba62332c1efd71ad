namespace ServiceClient

inductive Severity : Type
  | warning : Severity
  | error : Severity
  deriving DecidableEq, Repr

def Severity.all : List Severity := [.warning, .error]

def Severity.name : Severity → String
  | .warning => "warning"
  | .error => "error"

def Severity.ofName? (text : String) : Option Severity := all.find? (·.name = text)

inductive Diagnostic.Kind : Type
  | unmappableType : Diagnostic.Kind
  | unresolvableVerb : Diagnostic.Kind
  | duplicateMethodName : Diagnostic.Kind
  | excessPostParameter : Diagnostic.Kind
  deriving DecidableEq, Repr

def Diagnostic.Kind.all : List Diagnostic.Kind :=
  [.unmappableType, .unresolvableVerb, .duplicateMethodName, .excessPostParameter]

def Diagnostic.Kind.name : Diagnostic.Kind → String
  | .unmappableType => "UnmappableTypeError"
  | .unresolvableVerb => "UnresolvableVerbWarning"
  | .duplicateMethodName => "DuplicateMethodNameWarning"
  | .excessPostParameter => "ExcessPostParameterWarning"

def Diagnostic.Kind.ofName? (text : String) : Option Diagnostic.Kind := all.find? (·.name = text)

structure Diagnostic where
  kind : Diagnostic.Kind
  severity : Severity := .warning
  controller : String
  method : Option String := none
  message : String
  deriving DecidableEq

namespace Diagnostic

def location (d : Diagnostic) : String :=
  match d.method with
  | some "" | none => d.controller
  | some method => d.controller ++ "." ++ method

def isError (d : Diagnostic) : Bool := d.severity = .error

end Diagnostic

def hasErrors (ds : List Diagnostic) : Bool := ds.any (·.isError)

end ServiceClient

import ServiceClient.HostType.Basic
import ServiceClient.Verb

namespace ServiceClient

structure Parameter where
  name : String
  type : HostType
  deriving DecidableEq

/-- A method of a controller. Without a declaring type it belongs to its controller. -/
structure Method where
  name : String
  parameters : List Parameter := []
  returnType : HostType := { name := "Void" }
  verb : Option Verb := none
  visibility : String := "public"
  isStatic : Bool := false
  declaringType : Option String := none
  deriving DecidableEq

structure Controller where
  name : String
  methods : List Method := []
  deriving DecidableEq

def Method.resolvedVerb (m : Method) : Option Verb :=
  m.verb <|> Verb.suggestedBy m.name

def Method.isExposedBy (m : Method) (controller : String) : Bool :=
  m.visibility = "public" && !m.isStatic
    && (m.declaringType = none || m.declaringType = some controller)

def Controller.exposed (c : Controller) : List Method :=
  c.methods.filter (·.isExposedBy c.name)

def Controller.resourceName (c : Controller) (suffix : String) : String :=
  match Text.dropSuffix? suffix c.name with
  | some "" | none => c.name
  | some resource => resource

def Parameter.markModels (names : List String) (p : Parameter) : Parameter :=
  { p with type := p.type.markModels names }

def Method.markModels (names : List String) (m : Method) : Method :=
  { m with
    parameters := m.parameters.map (·.markModels names)
    returnType := m.returnType.markModels names }

def Controller.markModels (names : List String) (c : Controller) : Controller :=
  { c with methods := c.methods.map (·.markModels names) }

end ServiceClient

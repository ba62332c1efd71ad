import ServiceClient.DataService
import ServiceClient.Diagnostic
import ServiceClient.Settings.Basic
import ServiceClient.Snapshot.Basic
import ServiceClient.Text.Quoted
import ServiceClient.TypeScript.Memo

/-!
Generation of the module from a snapshot. Every controller is worked on by itself, in the order of
the names; what cannot be written is reported as a diagnostic and left out. `produce` takes the
mapping of types as it comes, `generate` maps them with one memory for the whole run.
-/

namespace ServiceClient

structure Summary where
  controllers : Nat := 0
  methodsProcessed : Nat := 0
  methodsEmitted : Nat := 0
  methodsSkipped : Nat := 0
  deriving DecidableEq

structure Generation where
  moduleText : String := ""
  outputPath : Path
  diagnostics : List Diagnostic := []
  summary : Summary := {}
  modules : List String := []
  written : Bool := false
  deriving DecidableEq

namespace Generation

def hasErrors (g : Generation) : Bool := ServiceClient.hasErrors g.diagnostics

def duplicateSeverity : DuplicatePolicy → Severity
  | .strict => .error
  | .lenient => .warning

def duplicateDiagnostic (severity : Severity) (controller method first : String) : Diagnostic where
  kind := .duplicateMethodName
  severity := severity
  controller := controller
  method := some method
  message := s!"Duplicate method name '{method}' (collides with '{first}'); "
    ++ "overloads are not supported"

/-- The diagnostics of the names that follow an equal one, where `seen` holds each folded name
with the first name that has it. -/
def duplicatesAfter (severity : Severity) (controller : String) :
    (seen : List (String × String)) → List String → List Diagnostic
  | _, [] => []
  | seen, name :: names =>
    match seen.lookup (Text.fold name) with
    | some first =>
      duplicateDiagnostic severity controller name first
        :: duplicatesAfter severity controller seen names
    | none => duplicatesAfter severity controller ((Text.fold name, name) :: seen) names

def duplicates (policy : DuplicatePolicy) (c : Controller) : List Diagnostic :=
  duplicatesAfter (duplicateSeverity policy) c.name []
    ((Text.sortByName Method.name c.exposed).map (·.name))

def unresolvable (controller method : String) : Diagnostic where
  kind := .unresolvableVerb
  controller := controller
  method := some method
  message := s!"The method '{controller}.{method}' does not have a recognizable HTTP method"

def unmappable (controller method : String) (e : TypeScript.Unmappable) : Diagnostic where
  kind := .unmappableType
  severity := .error
  controller := controller
  method := some method
  message := e.message

def excess (controller method : String) (parameters : List String) : Diagnostic where
  kind := .excessPostParameter
  controller := controller
  method := some method
  message := "Only POST methods with zero or one parameter are supported; ignoring "
    ++ Text.quotedList parameters

structure MethodOutcome where
  entry : Option Entry := none
  diagnostics : List Diagnostic := []

structure ControllerOutcome where
  grouping : Option Grouping := none
  diagnostics : List Diagnostic := []
  methods : List Method := []

variable {m : Type → Type} [Monad m]

def entry (map : HostType → ExceptT TypeScript.Unmappable m TypeScript.Mapped) (resource : String)
    (method : Method) (verb : Verb) : ExceptT TypeScript.Unmappable m Entry := do
  let url ← Url.build map Url.basePathReference resource method.name verb method.parameters
  Entry.build map method verb url

def ofMethod (map : HostType → ExceptT TypeScript.Unmappable m TypeScript.Mapped)
    (controller resource : String) (method : Method) : m MethodOutcome := do
  match method.resolvedVerb with
  | none => return { diagnostics := [unresolvable controller method.name] }
  | some verb =>
    match ← (entry map resource method verb).run with
    | .error e => return { diagnostics := [unmappable controller method.name e] }
    | .ok e =>
      let leftOver := e.url.excess
      return {
        entry := some e
        diagnostics := if leftOver = [] then [] else [excess controller method.name leftOver] }

def ofController (map : HostType → ExceptT TypeScript.Unmappable m TypeScript.Mapped)
    (s : Settings) (c : Controller) : m ControllerOutcome := do
  let methods := c.exposed
  let duplicates := duplicates s.duplicatePolicy c
  if duplicates ≠ [] ∧ s.duplicatePolicy = .strict then
    return { diagnostics := duplicates, methods }
  else
    let resourceName := c.resourceName s.controllerSuffix
    let outcomes ← methods.mapM (ofMethod map c.name resourceName)
    return {
      grouping := some ⟨resourceName, outcomes.filterMap (·.entry)⟩
      diagnostics := duplicates ++ outcomes.flatMap (·.diagnostics)
      methods }

def collect (s : Settings) (snapshot : Snapshot) (outcomes : List ControllerOutcome) :
    Except DataService.PreambleError Generation := do
  let groupings := outcomes.filterMap (·.grouping)
  let text ← DataService.emit s.moduleName s.modelImportPath s.apiRelativePath snapshot.registry
    groupings
  let processed := (outcomes.flatMap (·.methods)).length
  let emitted := (groupings.flatMap (·.entries)).length
  return {
    moduleText := text
    outputPath := s.outputPath
    diagnostics := outcomes.flatMap (·.diagnostics)
    summary := ⟨snapshot.controllers.length, processed, emitted, processed - emitted⟩
    modules := [s.moduleName] }

def produce (map : HostType → ExceptT TypeScript.Unmappable m TypeScript.Mapped) (s : Settings)
    (snapshot : Snapshot) : m (Except DataService.PreambleError Generation) := do
  if !s.isEnabled then return .ok { outputPath := s.outputPath }
  let outcomes ← (Text.sortByName Controller.name snapshot.controllers).mapM (ofController map s)
  return collect s snapshot outcomes

def mapping (s : Settings) (snapshot : Snapshot) : TypeScript.Mapping :=
  ⟨snapshot.registry, s.typeOverrides⟩

end Generation

def generate (s : Settings) (snapshot : Snapshot) :
    Except DataService.PreambleError Generation :=
  let map := (Generation.mapping s snapshot).mapRemembering
  ((Generation.produce map s snapshot : StateM TypeScript.Memo _).run []).1

end ServiceClient

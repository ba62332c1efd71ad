import ServiceClient.Logging.Handler
import ServiceClient.Logging.Source

/-!
Setting up the loggers from a configuration: the root and the logger of the program. Where that
fails, the root writes plain lines, and the other keeps what it has got until then. In the end the
setup tells in a line how it went.
-/

namespace ServiceClient.Logging

structure Logger where
  level : Threshold := .number 0
  propagate : Value := .bool true
  handlers : List Handler := []
  filters : List Filter := []

/-- The loggers that a line of the setup can reach: that of the setup itself, that of the program,
and the root. -/
structure Loggers where
  own : Logger := {}
  program : Logger := {}
  root : Logger := { level := .number 30, handlers := [{ className := "NullHandler" }] }

def programName : String := "typescripter"

def ownName : String := "typescripter.logging"

def rootName : String := "root"

/-- What the sections of loggers may name. An incremental configuration has no parts, and leaves
those that loggers have. -/
structure Parts where
  config : Configuration
  filters : List (Value × Filter) := []
  handlers : List (Value × Handler) := []
  incremental : Bool := false

def Parts.ofEntries (entries : List (Value × Value)) (d : Disk) : Except Trouble Parts := do
  let config : Configuration := { entries }
  match ← config.get "version" entries with
  | .plain version => require (version.sameKey (.int 1))
  | .object _ => throw .refused
  if (← config.get "incremental" entries).isGiven then
    let config := config.withSection "handlers"
    require (← config.sectionOf "handlers").isEmpty
    return { config := config.withSection "loggers", incremental := true }
  let _ ← config.get "disable_existing_loggers" entries
  let (config, _) ← config.makeSection "formatters" Configuration.makeFormatter
  let (config, filters) ← config.makeSection "filters" Configuration.makeFilter
  let made ← config.makeHandlers filters d
  return { config := made.config.withSection "loggers", filters, handlers := made.handlers }

def Parts.named (parts : Parts) :
    List Value → List (Value × Handler) → List Handler × Except Trouble Unit
  | [], found => (found.map (·.2), .ok ())
  | key :: keys, found =>
    match Value.find? key parts.handlers with
    | none => (found.map (·.2), .error .refused)
    | some h => parts.named keys
        (if (Value.find? key found).isSome then found else found ++ [(key, h)])

def Parts.listed (parts : Parts) (s : Setting) : List Handler × Except Trouble Unit :=
  if !s.isGiven then ([], .ok ())
  else match s with
    | .plain v => match listed? v with
      | some keys => parts.named keys []
      | none => ([], .error .refused)
    | .object _ => ([], .error .refused)

abbrev Configuring := ExceptT Trouble (StateM Logger)

def Parts.configure (parts : Parts) (v : Value) : Configuring Unit := do
  let entries ← parts.config.entriesOf v
  let level ← parts.config.get "level" entries
  if !level.isNull then
    let some level := level? level | throw .refused
    modify fun l => { l with level }
  if !parts.incremental then
    modify fun l => { l with handlers := [] }
    let (handlers, result) := parts.listed (← parts.config.get "handlers" entries)
    modify fun l => { l with handlers }
    result
    let filters ← listedParts parts.filters (← parts.config.get "filters" entries)
    modify fun l => { l with filters := l.filters ++ filters }

def Parts.configureNamed (parts : Parts) (v : Value) : Configuring Unit := do
  parts.configure v
  match ← parts.config.get "propagate" (← parts.config.entriesOf v) with
  | .plain .null => return
  | .plain propagate => modify fun l => { l with propagate }
  | .object name => modify fun l => { l with propagate := .text name }

def isRootName : Value → Bool
  | .text name => name = "" || name = rootName
  | name => name.isKey && !isGiven name

def Loggers.configureOne (parts : Parts) (name v : Value) (ls : Loggers) :
    Loggers × Except Trouble Unit :=
  let configured (l : Logger) := (parts.configureNamed v).run.run l
  if isRootName name then
    let (result, root) := configured ls.root
    ({ ls with root }, inSection result)
  else match name with
    | .text name =>
      if name = programName then
        let (result, program) := configured ls.program
        ({ ls with program }, inSection result)
      else if name = ownName then
        let (result, own) := configured ls.own
        ({ ls with own }, inSection result)
      else (ls, inSection (configured {}).1)
    | _ => (ls, .error .refused)

def Loggers.configureEach (parts : Parts) :
    List (Value × Value) → Loggers → Loggers × Except Trouble Unit
  | [], ls => (ls, .ok ())
  | (name, v) :: entries, ls => match ls.configureOne parts name v with
    | (ls, .ok ()) => configureEach parts entries ls
    | (ls, .error t) => (ls, .error t)

def Loggers.configureRoot (parts : Parts) (ls : Loggers) : Loggers × Except Trouble Unit :=
  match parts.config.get "root" parts.config.entries with
  | .error t => (ls, .error t)
  | .ok root =>
    if !root.isGiven then (ls, .ok ())
    else match root with
      | .object _ => (ls, .error .refused)
      | .plain v =>
        let (result, root) := (parts.configure v).run.run ls.root
        ({ ls with root }, inSection result)

def Loggers.configure (entries : List (Value × Value)) (d : Disk) (ls : Loggers) :
    Loggers × Except Trouble Unit :=
  let sections : Except Trouble (Parts × List (Value × Value)) := do
    let parts ← Parts.ofEntries entries d
    return (parts, ← parts.config.sectionOf "loggers")
  match sections with
  | .error t => (ls, .error t)
  | .ok (parts, entries) => match ls.configureEach parts entries with
    | (ls, .ok ()) => ls.configureRoot parts
    | (ls, .error t) => (ls, .error t)

def debug : Nat := 10

def warning : Nat := 30

def reached : List Logger → List Handler
  | [] => []
  | l :: ls => l.handlers ++ if isGiven l.propagate then reached ls else []

/-- Writes a line of the setup at a level. The first logger whose level is not zero says which lines
matter, and only the filters of the own logger count. -/
def Loggers.write (number : Nat) (d : Disk) (ls : Loggers) : Except LineError Unit := do
  let line : Line := ⟨ownName, number⟩
  let chain := [ls.own, ls.program, ls.root]
  let levels := chain.filterMap fun l => l.level.number?
  if (levels.find? (· ≠ 0)).getD 0 ≤ (number : Int) then
    if ← allPass line ls.own.filters then (reached chain).forM (Handler.write d line)

inductive SetupFault : Type
  | name (error : FileError) : SetupFault
  | override (error : OverrideError) : SetupFault
  | document (fault : Yaml.Fault) : SetupFault
  | configuration (trouble : Trouble) : SetupFault
  | line (error : LineError) : SetupFault
  | layoutAsLevel : SetupFault
  | stylesAsLevel : SetupFault
  deriving DecidableEq

def Loggers.basic (level : String) (ls : Loggers) : Except SetupFault Loggers :=
  let name := Text.upper level
  if name = layoutName then .error .layoutAsLevel
  else if name = stylesName then .error .stylesAsLevel
  else .ok { ls with
    root :=
      { ls.root with
        level := .number ((levelNumber? name).getD info)
        handlers := [{ className := "StreamHandler" }] } }

def basicLevel (level : Option String) : String := (given level).getD "INFO"

def Loggers.fallBack (d : Disk) (level : Option String) (ls : Loggers) :
    Except SetupFault Loggers := do
  let ls ← ls.basic (basicLevel level)
  (ls.write warning d).mapError .line
  return ls

def LineError.isCaught : LineError → Bool
  | .notComparable | .notOpened .wrongKind | .notOpened .wrongValue
  | .notOpened (.file .nullInName) => true
  | _ => false

def isCaught : Yaml.Fault → Bool
  | .undecodable | .malformed | .outOfRange | .unknownWord | .notText => true
  | .emptyNumber | .notMoment | .tooLarge | .endless => false

def Loggers.setUpFrom (entries : List (Value × Value)) (d : Disk) (level : Option String)
    (ls : Loggers) : Except SetupFault Loggers :=
  match ls.configure entries d with
  | (_, .error .outOfRange) => .error (.configuration .outOfRange)
  | (_, .error .endless) => .error (.configuration .endless)
  | (ls, .error _) => ls.fallBack d level
  | (ls, .ok ()) => match ls.write debug d with
    | .ok () => .ok ls
    | .error e => if e.isCaught then ls.fallBack d level else .error (.line e)

def overridden (level : Option String) (entries : List (Value × Value)) :
    Except OverrideError (List (Value × Value)) :=
  match given level with
  | some level => applyLevel level entries
  | none => .ok entries

def Loggers.setup (config : Except (Document.Failure SourceError) (List (Value × Value)))
    (d : Disk) (level : Option String) (ls : Loggers) : Except SetupFault Loggers :=
  match config with
  | .error (.refused _) => ls.fallBack d level
  | .error (.fault fault) =>
    if isCaught fault then ls.fallBack d level else .error (.document fault)
  | .ok entries => match overridden level entries with
    | .error .notMapping => .error (.override .notMapping)
    | .error _ => ls.fallBack d level
    | .ok entries => ls.setUpFrom entries d level

def standard : Except (Document.Failure SourceError) (List (Value × Value)) :=
  let path : Path := { parts := [standardName] }
  load path (shipped.read path)

def Loggers.setupFor (environment mode : Option String) (d : Disk) (level : Option String)
    (ls : Loggers) : Except SetupFault Loggers :=
  match usedName none environment mode with
  | .error e => .error (.name e)
  | .ok _ => ls.setup standard d level

end ServiceClient.Logging

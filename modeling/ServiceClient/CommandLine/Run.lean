import ServiceClient.CommandLine.Arguments
import ServiceClient.Console
import ServiceClient.FileSystem
import ServiceClient.Logging.Setup

/-!
Running a command on a file system. What is wrong with the input ends in a panel and the exit code
1, a few faults of documents and levels without the panel, and so does a thing that the console
cannot show; arguments that ask for nothing sensible end in the exit code 2 before anything is read.
-/

namespace ServiceClient.CommandLine

/-- What ends a command without a word to the user. -/
inductive Fault : Type
  | document (fault : Yaml.Fault) : Fault
  | logging (fault : Logging.SetupFault) : Fault
  | file (error : FileError) : Fault
  deriving DecidableEq

/-- How a command ends: with an exit code, what it has shown, the outcome of a generation, and what
has ended it early: a fault, or a thing that could not be shown. -/
structure Outcome where
  exitCode : Nat
  printed : List Printed := []
  isUsageError : Bool := false
  generation : Option Generation := none
  fault : Option Fault := none
  unshown : Option Printed := none

namespace Outcome

def usageError : Outcome := { exitCode := 2, isUsageError := true }

def showing (console : Console) (things : List Printed) (o : Outcome) : Outcome :=
  let printed := o.printed ++ console.shown things
  match console.refused? things with
  | none => { o with printed }
  | some thing => { o with exitCode := 1, printed, unshown := some thing }

variable {console : Console} {things more : List Printed} {o : Outcome}

theorem showing_of_refused {thing : Printed} (h : console.refused? things = some thing) :
    showing console things o =
      { o with
        exitCode := 1, printed := o.printed ++ console.shown things, unshown := some thing } := by
  rw [showing, h]

theorem showing_of_shown (h : console.refused? things = none) :
    showing console things o = { o with printed := o.printed ++ things } := by
  rw [showing, h, Console.shown_of_refused?_eq_none h]

@[simp] theorem generation_showing : (showing console things o).generation = o.generation := by
  rw [showing]
  split <;> rfl

@[simp] theorem fault_showing : (showing console things o).fault = o.fault := by
  rw [showing]
  split <;> rfl

theorem unshown_showing (h : o.unshown = none) :
    (showing console things o).unshown = console.refused? things := by
  rw [showing]
  split
  · next shown => rw [shown, h]
  · next refused => rw [refused]

theorem showing_append :
    showing console (things ++ more) o =
      if console.refused? things = none then
        showing console more { o with printed := o.printed ++ things }
      else showing console things o := by
  cases h : console.refused? things with
  | none =>
    rw [if_pos rfl, showing, showing, Console.refused?_append h, Console.shown_append h,
      ← List.append_assoc]
  | some thing =>
    rw [if_neg (by simp), showing, showing, Console.refused?_append_of_refused h,
      Console.shown_append_of_refused h, h]

def failed (console : Console) (printed : List Printed) (kind : FailureKind)
    (message command : String) : Outcome :=
  showing console [Report.failure kind message command] { exitCode := 1, printed }

theorem exitCode_failed (console : Console) (printed : List Printed) (kind : FailureKind)
    (message command : String) : (failed console printed kind message command).exitCode = 1 := by
  rw [failed, showing]
  split <;> rfl

theorem failed_cases (console : Console) (printed : List Printed) (kind : FailureKind)
    (message command : String) :
    let panel := Report.failure kind message command
    let o := failed console printed kind message command
    if console.shows panel then o.printed = printed ++ [panel] ∧ o.unshown = none
    else o.printed = printed ∧ o.unshown = some panel := by
  intro panel o
  split
  · next shows =>
    have shown : console.refused? [panel] = none := by simpa [Console.refused?] using shows
    simp [o, failed, showing_of_shown shown, panel]
  · next refuses =>
    have refused : console.refused? [panel] = some panel := by simp [Console.refused?, refuses]
    simp [o, failed, showing_of_refused refused, Console.shown, panel, refuses]

def broken (printed : List Printed) (fault : Fault) : Outcome :=
  { exitCode := 1, printed, fault := some fault }

def ofLoad (console : Console) (printed : List Printed) (kind : FailureKind) (message : ε → String)
    (command : String) : Document.Failure ε → Outcome
  | .refused e => failed console printed kind (message e) command
  | .fault fault => broken printed (.document fault)

end Outcome

variable {m : Type → Type} [Monad m] [FileSystem m]

open FileSystem

def isFile (name : String) : m Bool := return (← status (Path.parse name)) = .file

def isDirectoryOrAbsent (name : String) : m Bool := do
  let path := Path.parse name
  return !path.hasNull && (← status path) ≠ .file

def isUsable : Command → m Bool
  | .generate snapshot config _ outputDir .. => do
    if !(← isFile snapshot) then return false
    if let some config := config then
      if !(← isFile config) then return false
    if let some outputDir := outputDir then
      if !(← isDirectoryOrAbsent outputDir) then return false
    return true
  | .validateSnapshot snapshot .. => isFile snapshot
  | .showHelp => return true

def settings (env : Environment) (config : Option String) (options : Settings.Options) :
    m (Except (Document.Failure Settings.Error) Settings) := do
  match config with
  | none => return (Settings.build env none options).mapError .refused
  | some name =>
    let path := Path.parse name
    match Settings.load env path (← read path) with
    | .error e => return .error e
    | .ok file => return (Settings.build env (some file) options).mapError .refused

def write (g : Generation) : m (Except FileError Generation) := do
  if g.modules = [] then return .ok g
  return (← writeIfChanged g.moduleText g.outputPath).map fun written => { g with written }

def writeMessage (path : Path) : String := s!"Failed to write {path}: "

def banner (snapshotPath : Path) (s : Settings) : Printed :=
  Report.banner snapshotPath s.outputPath s.basePath

def closing (dryRun verbose : Bool) (g : Generation) : List Printed :=
  Report.generation g dryRun
    ++ if verbose && dryRun && g.moduleText ≠ "" then [.echo g.moduleText] else []

def finished (console : Console) (printed : List Printed) (dryRun verbose : Bool)
    (g : Generation) : Outcome :=
  .showing console (closing dryRun verbose g)
    { exitCode := if g.hasErrors then 1 else 0, printed, generation := some g }

def generateWith (console : Console) (s : Settings) (snapshotPath : Path) (dryRun verbose : Bool) :
    m Outcome := do
  let banner := banner snapshotPath s
  if !console.shows banner then return { exitCode := 1, unshown := some banner }
  match Snapshot.load snapshotPath s.controllerSuffix (← read snapshotPath) with
  | .error e => return .ofLoad console [banner] .snapshot Snapshot.Error.message "generate" e
  | .ok snapshot =>
    match generate s snapshot with
    | .error e => return .failed console [banner] .preamble e.message "generate"
    | .ok g =>
      if dryRun then return finished console [banner] dryRun verbose g
      match ← write g with
      | .error .nullInName => return .broken [banner] (.file .nullInName)
      | .error _ =>
        return .failed console [banner] .write (writeMessage g.outputPath) "generate"
      | .ok g => return finished console [banner] dryRun verbose g

def validate (console : Console) (snapshotPath : Path) (suffix : String) : m Outcome := do
  match Snapshot.load snapshotPath suffix (← read snapshotPath) with
  | .error e => return .ofLoad console [] .snapshot Snapshot.Error.message "validate-snapshot" e
  | .ok snapshot => return .showing console (Report.snapshot snapshot suffix) { exitCode := 0 }

def Command.level : Command → Option String
  | .generate _ _ _ _ _ _ verbose level => some (if verbose then "DEBUG" else level)
  | .validateSnapshot _ _ level => some level
  | .showHelp => none

/-- The fault of the setup of logging for a command, if there is one. The shipped configuration
opens no file. -/
def loggingFault (env : Environment) (c : Command) : Option Logging.SetupFault := do
  let level ← c.level
  match Logging.Loggers.setupFor none env.mode .empty level {} with
  | .ok _ => none
  | .error fault => return fault

def runUsable (console : Console) (env : Environment) : Command → m Outcome
  | .generate snapshot config basePath outputDir lenientDuplicates dryRun verbose _ => do
    let options : Settings.Options :=
      { basePath, outputDir := outputDir.map Path.parse, lenientDuplicates }
    match ← settings env config options with
    | .error e => return .ofLoad console [] .settings Settings.Error.message "generate" e
    | .ok s => generateWith console s (Path.parse snapshot) dryRun verbose
  | .validateSnapshot snapshot suffix _ => validate console (Path.parse snapshot) suffix
  | .showHelp => return { exitCode := 0 }

def execute (console : Console) (env : Environment) (setup : Option Logging.SetupFault)
    (c : Command) : m Outcome :=
  match setup with
  | some fault => return .broken [] (.logging fault)
  | none => runUsable console env c

/-- Runs a command. The level of log lines never changes what is shown, but it has to be one. -/
def runCommand (console : Console) (env : Environment) (c : Command) : m Outcome := do
  if !(← isUsable c) then return .usageError
  execute console env (loggingFault env c) c

def runOn (console : Console) (env : Environment) (args : List String) : m Outcome :=
  match command? args with
  | some c => runCommand console env c
  | none => return .usageError

def run (env : Environment) (args : List String) : m Outcome := runOn .recording env args

end ServiceClient.CommandLine

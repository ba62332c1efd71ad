import Mathlib.Tactic.SplitIfs
import ServiceClient.CommandLine.Run
import ServiceClient.Proofs.Disk.Names
import ServiceClient.Proofs.Generation.Plain
import ServiceClient.Proofs.Outcome

namespace ServiceClient

class FileSystem.IsReadable (σ : Type) [FileSystem (StateM σ)] : Prop where
  snd_read (path : Path) (disk : σ) : ((FileSystem.read path : StateM σ _).run disk).2 = disk

instance : FileSystem.IsReadable Disk := ⟨fun _ _ => rfl⟩

namespace CommandLine

structure Request where
  snapshot : String
  config : Option String := none
  basePath : Option String := none
  outputDir : Option String := none
  lenientDuplicates : Bool := false
  verbose : Bool := false
  level : String := defaultLevel

namespace Request

def command (q : Request) (dryRun : Bool) : Command :=
  .generate q.snapshot q.config q.basePath q.outputDir q.lenientDuplicates dryRun q.verbose q.level

def path (q : Request) : Path := Path.parse q.snapshot

def options (q : Request) : Settings.Options where
  basePath := q.basePath
  outputDir := q.outputDir.map Path.parse
  lenientDuplicates := q.lenientDuplicates

end Request

/-- Why a run comes to no result: a failure that the user is told about, a fault that goes past the
command, or a thing that could not be shown before. -/
inductive Stop : Type
  | told (kind : FailureKind) (message : String) : Stop
  | broken (fault : Fault) : Stop
  | unshown (thing : Printed) : Stop

namespace Stop

def ofLoad (kind : FailureKind) (message : ε → String) : Document.Failure ε → Stop
  | .refused e => .told kind (message e)
  | .fault fault => .broken (.document fault)

def ofSetup : Option Logging.SetupFault → Except Stop Unit
  | some fault => .error (.broken (.logging fault))
  | none => .ok ()

def ofFile (path : Path) : FileError → Stop
  | .nullInName => .broken (.file .nullInName)
  | _ => .told .write (writeMessage path)

def fault? : Stop → Option Fault
  | .broken fault => some fault
  | _ => none

def IsAtFile (stop : Stop) : Prop :=
  (∃ message, stop = .told .write message) ∨ stop = .broken (.file .nullInName)

theorem isAtFile_ofFile (path : Path) (e : FileError) : (ofFile path e).IsAtFile := by
  cases e with
  | nullInName => exact .inr rfl
  | _ => exact .inl ⟨_, rfl⟩

theorem eq_nullInName_of_ofFile {path : Path} {e : FileError}
    (h : ofFile path e = .broken (.file .nullInName)) : e = .nullInName := by
  cases e <;> first | rfl | cases h

theorem not_isAtFile_ofLoad {kind : FailureKind} (other : kind ≠ .write) (message : ε → String)
    (failure : Document.Failure ε) : ¬(ofLoad kind message failure).IsAtFile := by
  cases failure <;> simp [ofLoad, IsAtFile, other]

theorem not_isAtFile_of_ofSetup {fault : Option Logging.SetupFault} {stop : Stop}
    (h : ofSetup fault = .error stop) : ¬stop.IsAtFile := by
  cases fault with
  | none => cases h
  | some fault =>
    cases h
    simp [IsAtFile]

end Stop

theorem eq_broken_iff {x : Except Stop α} {fault : Fault} :
    x = .error (.broken fault) ↔ (Outcome.error? x).bind Stop.fault? = some fault := by
  rcases x with stop | a
  · cases stop <;> simp [Outcome.error?, Stop.fault?]
  · simp [Outcome.error?]

namespace Outcome

def ofResult (console : Console) (printed : List Printed) (dryRun verbose : Bool) :
    Except Stop Generation → Outcome
  | .ok g => finished console printed dryRun verbose g
  | .error (.told kind message) => failed console printed kind message "generate"
  | .error (.broken fault) => broken printed fault
  | .error (.unshown thing) => { exitCode := 1, printed, unshown := some thing }

variable {console : Console} {printed : List Printed} {dryRun verbose : Bool}
  {x : Except Stop Generation}

theorem fault_ofResult_eq_some_iff {fault : Fault} :
    (ofResult console printed dryRun verbose x).fault = some fault ↔
      x = .error (.broken fault) := by
  rcases x with stop | g
  · cases stop <;> simp [ofResult, failed, broken]
  · simp [ofResult, finished]

theorem unshown_finished (g : Generation) :
    (finished console printed dryRun verbose g).unshown =
      console.refused? (closing dryRun verbose g) := by
  rw [finished, unshown_showing rfl]

theorem exitCode_ofResult_error (stop : Stop) :
    (ofResult console printed dryRun verbose (.error stop)).exitCode = 1 := by
  cases stop with
  | told kind message => exact exitCode_failed ..
  | _ => rfl

theorem exitCode_ofResult_of_unshown
    (h : (ofResult console printed dryRun verbose x).unshown ≠ none) :
    (ofResult console printed dryRun verbose x).exitCode = 1 := by
  cases x with
  | error stop => exact exitCode_ofResult_error stop
  | ok g =>
    rw [ofResult, unshown_finished] at h
    obtain ⟨thing, refused⟩ := Option.ne_none_iff_exists'.1 h
    rw [ofResult, finished, showing_of_refused refused]

theorem exitCode_ofResult (console : Console) (printed : List Printed)
    (x : Except Stop Generation) :
    (ofResult console printed dryRun verbose x).exitCode = 0 ∨
      (ofResult console printed dryRun verbose x).exitCode = 1 := by
  cases x with
  | error stop => exact .inr (exitCode_ofResult_error stop)
  | ok g =>
    rw [ofResult, finished, showing]
    split
    · exact ite_eq_or_eq g.hasErrors 1 0 |>.symm
    · exact .inr rfl

theorem exitCode_ofResult_eq_zero_iff
    (h : (ofResult console printed dryRun verbose x).unshown = none) :
    (ofResult console printed dryRun verbose x).exitCode = 0 ↔
      ∃ g, x = .ok g ∧ ∀ d ∈ g.diagnostics, d.severity ≠ .error := by
  cases x with
  | error stop => simp [exitCode_ofResult_error]
  | ok g =>
    rw [ofResult, unshown_finished] at h
    rw [ofResult, finished, showing_of_shown h]
    simp [Generation.hasErrors, hasErrors, Diagnostic.isError]

end Outcome

variable {σ : Type} [FileSystem (StateM σ)]

def settingsOf (env : Environment) (setup : Option Logging.SetupFault) (q : Request) (disk : σ) :
    Except Stop Settings := do
  Stop.ofSetup setup
  ((settings env q.config q.options : StateM σ _).run disk).1.mapError
    (.ofLoad .settings Settings.Error.message)

def generatedWith (path : Path) (disk : σ) (s : Settings) : Except Stop Generation := do
  let content := ((FileSystem.read path : StateM σ _).run disk).1
  let snapshot ← (Snapshot.load path s.controllerSuffix content).mapError
    (.ofLoad .snapshot Snapshot.Error.message)
  (generate s snapshot).mapError fun e => .told .preamble e.message

def madeWith (console : Console) (path : Path) (disk : σ) (s : Settings) :
    Except Stop Generation :=
  if console.shows (banner path s) then generatedWith path disk s
  else .error (.unshown (banner path s))

def made (console : Console) (env : Environment) (setup : Option Logging.SetupFault) (q : Request)
    (disk : σ) : Except Stop Generation :=
  settingsOf env setup q disk >>= madeWith console q.path disk

def written (disk : σ) (g : Generation) : Except Stop Generation :=
  ((write g : StateM σ _).run disk).1.mapError (.ofFile g.outputPath)

def result (console : Console) (env : Environment) (setup : Option Logging.SetupFault)
    (q : Request) (dryRun : Bool) (disk : σ) : Except Stop Generation :=
  if dryRun then made console env setup q disk else made console env setup q disk >>= written disk

def opening (console : Console) (q : Request) : Except Stop Settings → List Printed
  | .ok s => console.shown [banner q.path s]
  | .error _ => []

variable {console : Console} {env : Environment} {setup : Option Logging.SetupFault} {q : Request}
  {disk : σ}
  {dryRun verbose : Bool} {s : Settings} {path : Path} {g g' : Generation} {stop : Stop}

omit [FileSystem (StateM σ)] in
theorem run_bind_of_eq {x : StateM σ α} {f : α → StateM σ β} {a : α} {after : σ}
    (h : x.run disk = (a, after)) : (x >>= f).run disk = (f a).run after := by
  rw [StateT.run_bind, h]
  rfl

theorem loggingFault_command (env : Environment) (q : Request) (dryRun dryRun' : Bool) :
    loggingFault env (q.command dryRun) = loggingFault env (q.command dryRun') := by
  simp only [loggingFault, Request.command, Command.level]

theorem run_runUsable {loaded : Except (Document.Failure Settings.Error) Settings}
    (h : (settings env q.config q.options : StateM σ _).run disk = (loaded, disk)) :
    (runUsable console env (q.command dryRun) : StateM σ _).run disk = match loaded with
      | .error e => (.ofLoad console [] .settings Settings.Error.message "generate" e, disk)
      | .ok s => (generateWith console s q.path dryRun q.verbose : StateM σ _).run disk := by
  change (settings env q.config q.options >>= _ : StateM σ _).run disk = _
  rw [run_bind_of_eq h]
  cases loaded <;> rfl

section Running

variable [FileSystem.IsReadable σ]

theorem exists_run_read (path : Path) (disk : σ) :
    ∃ content, (FileSystem.read path : StateM σ _).run disk = (content, disk) :=
  ⟨_, Prod.ext rfl (FileSystem.IsReadable.snd_read path disk)⟩

theorem exists_run_settings (env : Environment) (config : Option String)
    (options : Settings.Options) (disk : σ) :
    ∃ loaded, (settings env config options : StateM σ _).run disk = (loaded, disk) := by
  cases config with
  | none => exact ⟨_, rfl⟩
  | some name =>
    obtain ⟨content, hread⟩ := exists_run_read (Path.parse name) disk
    simp only [settings, run_bind_of_eq hread]
    cases Settings.load env (Path.parse name) content with
    | error e => exact ⟨_, rfl⟩
    | ok file => exact ⟨_, rfl⟩

omit [FileSystem.IsReadable σ] in
theorem run_generateWith_of_unshown (h : console.shows (banner path s) = false) :
    (generateWith console s path dryRun verbose : StateM σ _).run disk =
      ({ exitCode := 1, unshown := some (banner path s) }, disk) := by
  simp only [generateWith, h]
  rfl

theorem run_generateWith_of_stop (shows : console.shows (banner path s) = true)
    (h : generatedWith path disk s = .error stop) :
    (generateWith console s path dryRun verbose : StateM σ _).run disk =
      (.ofResult console [banner path s] dryRun verbose (.error stop), disk) := by
  obtain ⟨content, hread⟩ := exists_run_read path disk
  simp only [generatedWith, hread] at h
  simp only [generateWith, shows, Bool.not_true, Bool.false_eq_true, if_false, run_bind_of_eq hread]
  cases hload : Snapshot.load path s.controllerSuffix content with
  | error e =>
    rw [hload] at h
    cases h
    cases e <;> rfl
  | ok snapshot =>
    rw [hload] at h
    obtain ⟨e, hgenerate, rfl⟩ := Outcome.mapError_eq_error_iff.1 h
    simp only [hgenerate]
    rfl

theorem run_generateWith_of_generated (shows : console.shows (banner path s) = true)
    (h : generatedWith path disk s = .ok g) :
    (generateWith console s path dryRun verbose : StateM σ _).run disk =
      if dryRun then (finished console [banner path s] dryRun verbose g, disk)
      else ((write g : StateM σ _).run disk).map (fun there =>
        .ofResult console [banner path s] dryRun verbose
          (there.mapError (.ofFile g.outputPath))) id := by
  obtain ⟨content, hread⟩ := exists_run_read path disk
  simp only [generatedWith, hread] at h
  simp only [generateWith, shows, Bool.not_true, Bool.false_eq_true, if_false, run_bind_of_eq hread]
  obtain ⟨snapshot, loaded, hgenerate⟩ := Outcome.bind_eq_ok_iff.1 h
  simp only [Outcome.mapError_eq_ok_iff.1 loaded, Outcome.mapError_eq_ok_iff.1 hgenerate]
  cases dryRun with
  | true => rfl
  | false =>
    rcases hwrite : (write g : StateM σ _).run disk with ⟨there | there, after⟩
    · simp only [Bool.false_eq_true, if_false, run_bind_of_eq hwrite]
      cases there <;> rfl
    · simp only [Bool.false_eq_true, if_false, run_bind_of_eq hwrite]
      rfl

theorem run_execute_of_error (h : settingsOf env setup q disk = .error stop) :
    (execute console env setup (q.command dryRun) : StateM σ _).run disk =
      (.ofResult console [] dryRun q.verbose (.error stop), disk) := by
  rw [settingsOf] at h
  cases setup with
  | some fault =>
    cases h
    rfl
  | none =>
    obtain ⟨loaded, hsettings⟩ := exists_run_settings env q.config q.options disk
    rw [hsettings] at h
    obtain ⟨failure, rfl, rfl⟩ := Outcome.mapError_eq_error_iff.1 h
    rw [execute, run_runUsable hsettings]
    cases failure <;> rfl

theorem run_execute_of_ok (h : settingsOf env setup q disk = .ok s) :
    (execute console env setup (q.command dryRun) : StateM σ _).run disk =
      (generateWith console s q.path dryRun q.verbose : StateM σ _).run disk := by
  rw [settingsOf] at h
  cases setup with
  | some fault => cases h
  | none =>
    obtain ⟨loaded, hsettings⟩ := exists_run_settings env q.config q.options disk
    rw [hsettings] at h
    obtain rfl : loaded = .ok s := Outcome.mapError_eq_ok_iff.1 h
    rw [execute, run_runUsable hsettings]

omit [FileSystem.IsReadable σ] in
theorem result_of_error (h : made console env setup q disk = .error stop) (dryRun : Bool) :
    result console env setup q dryRun disk = .error stop := by
  cases dryRun <;> simp only [result, h] <;> rfl

/-- How a run ends is told by its result alone, and a dry one leaves all files as they are. -/
theorem run_execute (console : Console) (env : Environment) (setup : Option Logging.SetupFault)
    (q : Request) (dryRun : Bool) (disk : σ) :
    ((execute console env setup (q.command dryRun) : StateM σ _).run disk).1 =
        .ofResult console (opening console q (settingsOf env setup q disk)) dryRun q.verbose
          (result console env setup q dryRun disk) ∧
      (dryRun = true →
        ((execute console env setup (q.command dryRun) : StateM σ _).run disk).2 = disk) := by
  cases hsettings : settingsOf env setup q disk with
  | error stop =>
    have stopped : made console env setup q disk = .error stop := by
      rw [made, hsettings]
      rfl
    rw [run_execute_of_error hsettings, result_of_error stopped]
    exact ⟨rfl, fun _ => rfl⟩
  | ok s =>
    have hmade : made console env setup q disk = madeWith console q.path disk s := by
      rw [made, hsettings]
      rfl
    rw [madeWith] at hmade
    rw [run_execute_of_ok hsettings, opening, Console.shown]
    cases shows : console.shows (banner q.path s) with
    | false =>
      rw [shows] at hmade
      rw [run_generateWith_of_unshown shows, result_of_error hmade, List.takeWhile_cons, shows]
      exact ⟨rfl, fun _ => rfl⟩
    | true =>
      rw [shows, if_pos rfl] at hmade
      rw [List.takeWhile_cons, shows, if_pos rfl, List.takeWhile_nil]
      cases hwith : generatedWith q.path disk s with
      | error stop =>
        rw [run_generateWith_of_stop shows hwith, result_of_error (hmade.trans hwith)]
        exact ⟨rfl, fun _ => rfl⟩
      | ok g =>
        rw [run_generateWith_of_generated shows hwith, result, hmade, hwith]
        cases dryRun with
        | true => exact ⟨rfl, fun _ => rfl⟩
        | false => exact ⟨rfl, Bool.noConfusion⟩

end Running

theorem not_isAtFile_of_settingsOf (h : settingsOf env setup q disk = .error stop) :
    ¬stop.IsAtFile := by
  obtain early | ⟨-, -, late⟩ := Outcome.bind_eq_error_iff.1 h
  · exact Stop.not_isAtFile_of_ofSetup early
  · obtain ⟨failure, -, rfl⟩ := Outcome.mapError_eq_error_iff.1 late
    exact Stop.not_isAtFile_ofLoad (by decide) _ failure

theorem not_isAtFile_of_madeWith (h : madeWith console path disk s = .error stop) :
    ¬stop.IsAtFile := by
  rw [madeWith] at h
  split at h
  · obtain early | ⟨snapshot, -, late⟩ := Outcome.bind_eq_error_iff.1 h
    · obtain ⟨failure, -, rfl⟩ := Outcome.mapError_eq_error_iff.1 early
      exact Stop.not_isAtFile_ofLoad (by decide) _ failure
    · obtain ⟨e, -, rfl⟩ := Outcome.mapError_eq_error_iff.1 late
      simp [Stop.IsAtFile]
  · cases h
    simp [Stop.IsAtFile]

theorem not_isAtFile_of_made (h : made console env setup q disk = .error stop) :
    ¬stop.IsAtFile := by
  obtain early | ⟨s, -, late⟩ := Outcome.bind_eq_error_iff.1 h
  · exact not_isAtFile_of_settingsOf early
  · exact not_isAtFile_of_madeWith late

theorem isAtFile_of_written (h : written disk g = .error stop) : stop.IsAtFile := by
  obtain ⟨e, -, rfl⟩ := Outcome.mapError_eq_error_iff.1 h
  exact Stop.isAtFile_ofFile g.outputPath e

theorem fst_run_write (g : Generation) (disk : σ) :
    ((write g : StateM σ _).run disk).1 = if g.modules = [] then .ok g else
      ((FileSystem.writeIfChanged g.moduleText g.outputPath : StateM σ _).run disk).1.map
        fun isNew => { g with written := isNew } := by
  by_cases modules : g.modules = []
  · simp only [write, modules, if_true]
    rfl
  · simp only [write, modules, if_false]
    rfl

theorem exists_eq_of_written (h : written disk g = .ok g') :
    ∃ isNew, g' = { g with written := isNew } := by
  have there := Outcome.mapError_eq_ok_iff.1 h
  rw [fst_run_write] at there
  split_ifs at there
  · cases there
    exact ⟨g.written, rfl⟩
  · obtain ⟨isNew, -, rfl⟩ := Outcome.map_eq_ok_iff.1 there
    exact ⟨isNew, rfl⟩

theorem outputPath_of_madeWith (h : madeWith console path disk s = .ok g) :
    g.outputPath = s.outputPath := by
  rw [madeWith] at h
  split at h
  · obtain ⟨snapshot, -, generated⟩ := Outcome.bind_eq_ok_iff.1 h
    have generated := Outcome.mapError_eq_ok_iff.1 generated
    rw [Generation.generate_eq] at generated
    split_ifs at generated
    · split at generated <;> cases generated
      rfl
    · cases generated
      rfl
  · contradiction

/-- On a disk the fault that goes past the failure to write is that of a path with the null
character in it. -/
theorem hasNull_of_result {disk : Disk} (h : result console env setup q dryRun disk =
    .error (.broken (.file .nullInName))) :
    ∃ s, settingsOf env setup q disk = .ok s ∧ s.outputPath.hasNull = true := by
  have unmade (early : made console env setup q disk = .error (.broken (.file .nullInName))) :
      False :=
    not_isAtFile_of_made early (.inr rfl)
  cases dryRun with
  | true => exact (unmade h).elim
  | false =>
    obtain early | ⟨g, hmade, late⟩ := Outcome.bind_eq_error_iff.1 h
    · exact (unmade early).elim
    obtain ⟨s, hsettings, hwith⟩ := Outcome.bind_eq_ok_iff.1 hmade
    refine ⟨s, hsettings, ?_⟩
    rw [← outputPath_of_madeWith hwith]
    obtain ⟨e, unwritten, broken⟩ := Outcome.mapError_eq_error_iff.1 late
    obtain rfl : e = .nullInName := Stop.eq_nullInName_of_ofFile broken
    rw [fst_run_write] at unwritten
    split_ifs at unwritten
    exact Disk.hasNull_of_writeIfChanged (Outcome.map_eq_error_iff.1 unwritten)

end CommandLine

end ServiceClient

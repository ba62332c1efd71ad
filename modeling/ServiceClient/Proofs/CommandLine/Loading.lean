import Mathlib.Data.List.Basic
import ServiceClient.CommandLine.Run
import ServiceClient.Disk
import ServiceClient.Proofs.Document

/-!
Input files that cannot be used. Snapshots and settings are loaded or refused with errors of their
own, of which a command tells before it ends with the exit code 1, if the console can show that. The
faults of a document that they do not know, as of one that is no text, go past both.
-/

namespace ServiceClient.CommandLine

open Document

/-- How a command ends that cannot use an input of some content. It breaks off with the fault of the
document, or else it tells of a failure, unless the console cannot show just that. -/
structure Ended (console : Console) (content : Except FileError ByteArray) (o : Outcome) :
    Prop where
  exitCode : o.exitCode = 1
  told : fault? content = none → o.fault = none ∧
    ∃ shown kind message command,
      let panel := Report.failure kind message command
      if console.shows panel then o.printed = shown ++ [panel] ∧ o.unshown = none
      else o.printed = shown ∧ o.unshown = some panel
  broken : ∀ fault, fault? content = some fault →
    o.fault = some (.document fault) ∧ o.unshown = none

inductive StopsAt (console : Console) (env : Environment) (disk : Disk) : Command → Path → Prop
  | settings {snapshot name level : String} {basePath outputDir : Option String}
    {lenientDuplicates dryRun verbose : Bool} {failure : Failure Settings.Error}
    (h : Settings.load env (Path.parse name) (disk.read (Path.parse name)) = .error failure) :
    StopsAt console env disk
      (.generate snapshot (some name) basePath outputDir lenientDuplicates dryRun verbose level)
      (Path.parse name)
  | snapshot {snapshot level : String} {config basePath outputDir : Option String}
    {lenientDuplicates dryRun verbose : Bool} {s : Settings} {failure : Failure Snapshot.Error}
    (configured : (CommandLine.settings env config
      { basePath, outputDir := outputDir.map Path.parse, lenientDuplicates } :
        StateM Disk _).run disk = (.ok s, disk))
    (shows : console.shows (banner (Path.parse snapshot) s) = true)
    (h : Snapshot.load (Path.parse snapshot) s.controllerSuffix (disk.read (Path.parse snapshot)) =
      .error failure) :
    StopsAt console env disk
      (.generate snapshot config basePath outputDir lenientDuplicates dryRun verbose level)
      (Path.parse snapshot)
  | validated {snapshot suffix level : String} {failure : Failure Snapshot.Error}
    (h : Snapshot.load (Path.parse snapshot) suffix (disk.read (Path.parse snapshot)) =
      .error failure) :
    StopsAt console env disk (.validateSnapshot snapshot suffix level) (Path.parse snapshot)

theorem ended_ofLoad {ε α : Type} {unreadable malformed : ε}
    {content : Except FileError ByteArray} {use : Value → Except ε α} {failure : Failure ε}
    (h : Document.load unreadable malformed content use = .error failure) (console : Console)
    (printed : List Printed) (kind : FailureKind) (message : ε → String) (command : String) :
    Ended console content (.ofLoad console printed kind message command failure) := by
  obtain ⟨fault, found, failed⟩ | ⟨nothing, settled⟩ := load_cases unreadable malformed content use
  · cases h.symm.trans failed
    refine ⟨rfl, fun nothing => ?_, fun other hother => ?_⟩
    · cases found.symm.trans nothing
    · cases found.symm.trans hother
      exact ⟨rfl, rfl⟩
  · rw [h] at settled
    obtain ⟨_, ⟨⟩⟩ | ⟨e, ⟨⟩⟩ := settled
    refine ⟨Outcome.exitCode_failed .., fun _ => ⟨Outcome.fault_showing, ?_⟩,
      fun other hother => ?_⟩
    · exact ⟨printed, kind, message e, command, Outcome.failed_cases ..⟩
    · cases nothing.symm.trans hother

variable {console : Console} {env : Environment} {disk : Disk}

@[simp] theorem run_read (path : Path) :
    (FileSystem.read path : StateM Disk _).run disk = (pure (disk.read path, disk) : Id _) := rfl

theorem run_settings_of_error {name : String} {options : Settings.Options}
    {failure : Failure Settings.Error}
    (h : Settings.load env (Path.parse name) (disk.read (Path.parse name)) = .error failure) :
    (settings env (some name) options : StateM Disk _).run disk = (.error failure, disk) := by
  simp [settings, h]
  rfl

theorem run_validate_of_error {path : Path} {suffix : String} {failure : Failure Snapshot.Error}
    (h : Snapshot.load path suffix (disk.read path) = .error failure) :
    (validate console path suffix : StateM Disk _).run disk =
      (.ofLoad console [] .snapshot Snapshot.Error.message "validate-snapshot" failure, disk) := by
  simp [validate, h]
  rfl

theorem run_generateWith_of_error {s : Settings} {path : Path} {dryRun verbose : Bool}
    {failure : Failure Snapshot.Error} (shows : console.shows (banner path s) = true)
    (h : Snapshot.load path s.controllerSuffix (disk.read path) = .error failure) :
    (generateWith console s path dryRun verbose : StateM Disk _).run disk =
      (.ofLoad console [banner path s] .snapshot Snapshot.Error.message "generate" failure,
        disk) := by
  simp [generateWith, shows, h]
  rfl

theorem runUsable_of_stopsAt {c : Command} {path : Path} (h : StopsAt console env disk c path) :
    ∃ o, (runUsable console env c : StateM Disk _).run disk = (o, disk) ∧
      Ended console (disk.read path) o := by
  cases h with
  | settings h =>
    refine ⟨_, ?_, ended_ofLoad h console [] .settings Settings.Error.message "generate"⟩
    simp [runUsable, run_settings_of_error h]
    rfl
  | @snapshot snapshot _ _ _ _ _ _ _ s _ configured shows h =>
    refine ⟨_, ?_, ended_ofLoad h console [banner (Path.parse snapshot) s] .snapshot
      Snapshot.Error.message "generate"⟩
    simp [runUsable, configured]
    exact run_generateWith_of_error shows h
  | validated h =>
    refine ⟨_, ?_, ended_ofLoad h console [] .snapshot Snapshot.Error.message "validate-snapshot"⟩
    exact run_validate_of_error h

/-- Snapshots and settings are loaded, or refused with errors of their own, from just those files
whose document has no fault that they do not know: a file that cannot be read has none, but every
short one that is no text has. A command that comes to a file that it cannot use leaves the disk as
it is and ends with the exit code 1, in the one case telling of it, where the console can show that,
and in the other breaking off. -/
theorem loading_settled_iff (content : Except FileError ByteArray) :
    (((∀ path suffix, IsSettled (Snapshot.load path suffix content)) ∧
      ∀ env path, IsSettled (Settings.load env path content)) ↔ fault? content = none) ∧
    (∀ fault, fault? content = some fault →
      (∀ path suffix, Snapshot.load path suffix content = .error (.fault fault)) ∧
        ∀ env path, Settings.load env path content = .error (.fault fault)) ∧
    (∀ error, error ≠ .nullInName → fault? (.error error) = none) ∧
    (∀ bytes : ByteArray, bytes.size < Yaml.Readable.bytesAtOnce →
      String.fromUTF8? bytes = none → fault? (.ok bytes) = some .undecodable) ∧
    ∀ console env disk c path, StopsAt console env disk c path → ∃ o,
      (runUsable console env c : StateM Disk _).run disk = (o, disk) ∧
        Ended console (disk.read path) o := by
  refine ⟨⟨fun settled => ?_, fun nothing => ⟨?_, ?_⟩⟩, ?_, ?_, ?_, ?_⟩
  · exact isSettled_load_iff.1 (settled.1 {} "")
  · exact fun path suffix => isSettled_load_iff.2 nothing
  · exact fun env path => isSettled_load_iff.2 nothing
  · exact fun fault h => ⟨fun _ _ => load_of_fault h, fun _ _ => load_of_fault h⟩
  · intro error known
    cases error <;> first | rfl | contradiction
  · exact fun _ => fault?_of_undecodable
  · exact fun console env disk c path => runUsable_of_stopsAt

def cutDisk : Disk := Disk.empty.put ["work", "snapshot.yaml"] (.file "models: [".toUTF8)

theorem loading_settled_cut :
    let snapshot := Path.parse "snapshot.yaml"
    (∃ o, (runUsable .recording {} (.validateSnapshot "snapshot.yaml" "Controller" "INFO") :
        StateM Disk _).run cutDisk = (o, cutDisk) ∧ o.exitCode = 1 ∧ o.fault = none) ∧
      IsSettled (Snapshot.load snapshot "Controller" (.error .notFound)) ∧
      Settings.load {} snapshot (.ok ⟨#[0xff]⟩) = .error (.fault .undecodable) := by
  intro snapshot
  have refused : Snapshot.load snapshot "Controller" (cutDisk.read snapshot) =
      .error (.refused (.malformed snapshot)) := by
    decide +kernel
  have known : fault? (cutDisk.read snapshot) = none := by decide +kernel
  obtain ⟨settled, -, unreadable, -, stops⟩ := loading_settled_iff (.error .notFound)
  obtain ⟨-, faults, -, undecodable, -⟩ := loading_settled_iff (.ok ⟨#[0xff]⟩)
  obtain ⟨o, run, ended⟩ := stops .recording {} cutDisk _ _ (.validated refused)
  have fault := undecodable ⟨#[0xff]⟩ (by decide) (by decide +kernel)
  exact ⟨⟨o, run, ended.exitCode, (ended.told known).1⟩,
    (settled.2 (unreadable .notFound nofun)).1 _ _, (faults _ fault).2 _ _⟩

/-- Of a file that is no text neither a snapshot nor settings are loaded or refused. -/
theorem loading_not_settled :
    let path := Path.parse "snapshot.yaml"
    let content : Except FileError ByteArray := .ok ⟨#[0xff]⟩
    Snapshot.load path "Controller" content = .error (.fault .undecodable) ∧
      ¬IsSettled (Snapshot.load path "Controller" content) ∧
      ¬IsSettled (Settings.load {} path content) := by
  intro path content
  have snapshot : Snapshot.load path "Controller" content = .error (.fault .undecodable) := by
    decide +kernel
  have settings : Settings.load {} path content = .error (.fault .undecodable) := by
    decide +kernel
  refine ⟨snapshot, ?_, ?_⟩
  · rw [snapshot]
    rintro (⟨_, ⟨⟩⟩ | ⟨_, ⟨⟩⟩)
  · rw [settings]
    rintro (⟨_, ⟨⟩⟩ | ⟨_, ⟨⟩⟩)

end ServiceClient.CommandLine

import ServiceClient.CommandLine.Run
import ServiceClient.Proofs.Disk.Content
import ServiceClient.Proofs.Generation.Plain
import ServiceClient.Proofs.Outcome

namespace ServiceClient.Generation

inductive Stop : Type
  | preamble (error : DataService.PreambleError) : Stop
  | file (error : FileError) : Stop

def run {m : Type → Type} [Monad m] [FileSystem m] (s : Settings) (snapshot : Snapshot) :
    m (Except Stop Generation) := do
  match generate s snapshot with
  | .error e => return .error (.preamble e)
  | .ok g => return (← CommandLine.write g).mapError .file

variable {s : Settings} {snapshot : Snapshot} {g made : Generation} {disk after : Disk}

theorem run_write_of_no_modules (h : g.modules = []) :
    (CommandLine.write g : StateM Disk _).run disk = (.ok g, disk) := by
  simp only [CommandLine.write, h, if_true]
  rfl

theorem run_write_of_modules (h : g.modules ≠ []) :
    (CommandLine.write g : StateM Disk _).run disk =
      ((FileSystem.writeIfChanged g.moduleText g.outputPath : StateM Disk _).run disk).map
        (·.map fun written => { g with written }) id := by
  simp only [CommandLine.write, h, if_false]
  rfl

theorem run_of_generate (h : generate s snapshot = .ok made) :
    (run s snapshot : StateM Disk _).run disk =
      ((CommandLine.write made : StateM Disk _).run disk).map (·.mapError .file) id := by
  simp only [run, h]
  rfl

theorem exists_write_of_run (h : (run s snapshot : StateM Disk _).run disk = (.ok g, after)) :
    ∃ made, generate s snapshot = .ok made ∧
      (CommandLine.write made : StateM Disk _).run disk = (.ok g, after) := by
  cases hmade : generate s snapshot with
  | error e =>
    simp only [run, hmade] at h
    cases congrArg Prod.fst h
  | ok made =>
    rw [run_of_generate hmade] at h
    rcases hwrite : (CommandLine.write made : StateM Disk _).run disk with ⟨result, there⟩
    rw [hwrite] at h
    obtain ⟨returned, rfl⟩ := Prod.mk.inj h
    obtain rfl : result = .ok g := Outcome.mapError_eq_ok_iff.1 returned
    exact ⟨made, rfl, hwrite⟩

theorem exists_written_of_write (modules : made.modules ≠ [])
    (h : (CommandLine.write made : StateM Disk _).run disk = (.ok g, after)) :
    ∃ written, g = { made with written } ∧
      (FileSystem.writeIfChanged made.moduleText made.outputPath : StateM Disk _).run disk =
        (.ok written, after) := by
  rw [run_write_of_modules modules] at h
  rcases hwrite : (FileSystem.writeIfChanged made.moduleText made.outputPath :
    StateM Disk _).run disk with ⟨_ | written, there⟩
  · rw [hwrite] at h
    cases congrArg Prod.fst h
  · rw [hwrite] at h
    cases h
    exact ⟨written, rfl, rfl⟩

theorem run_of_read (h : generate s snapshot = .ok made) (modules : made.modules ≠ [])
    (there : disk.read made.outputPath = .ok made.moduleText.toUTF8) :
    (run s snapshot : StateM Disk _).run disk = (.ok { made with written := false }, disk) := by
  rw [run_of_generate h, run_write_of_modules modules, Disk.run_writeIfChanged_of_read there]
  rfl

theorem unwritten_of_generate (enabled : s.isEnabled = true) (h : generate s snapshot = .ok made) :
    made.modules ≠ [] ∧ made.outputPath = s.outputPath ∧ made.written = false := by
  rw [eq_assembled_of_generate enabled h]
  exact ⟨List.cons_ne_nil _ _, rfl, rfl⟩

/-- A run with a base path leaves exactly its text in the file, and writes just if it was not there;
the same run again finds it and changes nothing. A run without one leaves the disk as it is. -/
theorem run_rerun (h : (run s snapshot : StateM Disk _).run disk = (.ok g, after)) :
    generate s snapshot = .ok { g with written := false } ∧
    (s.isEnabled = true →
      after.read s.outputPath = .ok g.moduleText.toUTF8 ∧
      (g.written = true ↔ disk.read s.outputPath ≠ .ok g.moduleText.toUTF8) ∧
      (run s snapshot : StateM Disk _).run after = (.ok { g with written := false }, after)) ∧
    (s.isEnabled = false →
      after = disk ∧ g.moduleText = "" ∧ g.modules = [] ∧ g.written = false) := by
  obtain ⟨made, generated, wrote⟩ := exists_write_of_run h
  cases enabled : s.isEnabled with
  | false =>
    obtain rfl : { outputPath := s.outputPath } = made := by
      rw [generate_eq, enabled] at generated
      exact Except.ok.inj generated
    rw [run_write_of_no_modules rfl] at wrote
    cases wrote
    exact ⟨generated, nofun, fun _ => ⟨rfl, rfl, rfl, rfl⟩⟩
  | true =>
    obtain ⟨modules, place, unwritten⟩ := unwritten_of_generate enabled generated
    obtain ⟨written, rfl, stored⟩ := exists_written_of_write modules wrote
    obtain ⟨there, isNew⟩ := Disk.read_writeIfChanged stored
    have again := run_of_read generated modules there
    rw [place] at there isNew
    refine ⟨?_, fun _ => ⟨there, isNew, again⟩, nofun⟩
    rw [generated, ← unwritten]

def strayDisk : Disk :=
  (Disk.empty.put ["work", "app"] .directory).put ["work", "app", "DataService.ts"]
    (.file "// tslint:disable:max-line-length\r\n".toUTF8)

theorem run_rerun_stray :
    let s : Settings := { basePath := "/api", outputDir := Path.parse "app" }
    let snapshot : Snapshot := ⟨["User"], [{ name := "UserController" }]⟩
    ∃ g after, (run s snapshot : StateM Disk _).run strayDisk = (.ok g, after) ∧
      g.written = true ∧ after.read s.outputPath = .ok g.moduleText.toUTF8 ∧
      (run s snapshot : StateM Disk _).run after = (.ok { g with written := false }, after) := by
  intro s snapshot
  have succeeds : ((run s snapshot : StateM Disk _).run strayDisk).1.toOption.map (·.written) =
      some true := by
    decide +kernel
  rcases h : (run s snapshot : StateM Disk _).run strayDisk with ⟨_ | g, after⟩
  · rw [h] at succeeds
    contradiction
  rw [h] at succeeds
  obtain ⟨_, settled, _⟩ := run_rerun h
  obtain ⟨there, _, again⟩ := settled rfl
  exact ⟨g, after, rfl, Option.some.inj succeeds, there, again⟩

end ServiceClient.Generation

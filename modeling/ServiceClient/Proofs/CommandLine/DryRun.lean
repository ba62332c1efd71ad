import ServiceClient.Proofs.CommandLine.Result
import ServiceClient.Report.Markup

/-!
Dry runs against the runs that write. A dry run changes nothing, and ends like the other run unless
that one stops at the file or the console can show the lines about the file of one of them only.
-/

namespace ServiceClient

/-- Whether a thing shown is a panel, a table or a tree. Lines tell what became of the file. -/
def Printed.isReport : Printed → Bool
  | .panel .. | .table .. | .tree _ => true
  | .line _ | .echo _ => false

namespace CommandLine

/-- Whether two runs end alike, but for the file and the lines about it. -/
structure Outcome.Agrees (o o' : Outcome) : Prop where
  exitCode : o.exitCode = o'.exitCode
  fault : o.fault = o'.fault
  unshown : o.unshown.isSome = o'.unshown.isSome
  generation : o.generation.map ({ · with written := false }) =
    o'.generation.map ({ · with written := false })
  reports : o.printed.filter Printed.isReport = o'.printed.filter Printed.isReport

def tables (g : Generation) : List Printed :=
  Report.summary g.summary :: Report.diagnostics g.diagnostics

def fileLines (dryRun verbose : Bool) (g : Generation) : List Printed :=
  Report.status g dryRun ::
    if verbose && dryRun && g.moduleText ≠ "" then [.echo g.moduleText] else []

theorem closing_eq (dryRun verbose : Bool) (g : Generation) :
    closing dryRun verbose g = tables g ++ fileLines dryRun verbose g := by
  rw [closing, Report.generation, tables, fileLines, List.append_assoc]
  rfl

variable {σ : Type} [FileSystem (StateM σ)] {console : Console} {env : Environment}
  {setup : Option Logging.SetupFault} {q : Request} {verbose : Bool} {disk : σ}

theorem isReport_fileLines (dryRun verbose : Bool) (g : Generation) :
    ∀ thing ∈ fileLines dryRun verbose g, thing.isReport = false := by
  have status : (Report.status g dryRun).isReport = false := by
    simp only [Report.status]
    split_ifs <;> rfl
  rw [fileLines, List.forall_mem_cons]
  refine ⟨status, ?_⟩
  split_ifs
  · exact List.forall_mem_singleton.2 rfl
  · exact List.forall_mem_nil _

/-- Whether the lines about the file can be shown in both runs or in neither. -/
def ShowsAlike (console : Console) (verbose : Bool) (g : Generation) : Prop :=
  console.refused? (tables g) = none →
    (console.refused? (fileLines true verbose g)).isSome =
      (console.refused? (fileLines false verbose g)).isSome

namespace Outcome

theorem filter_isReport_append {printed things : List Printed}
    (lines : ∀ thing ∈ things, thing.isReport = false) :
    (printed ++ things).filter Printed.isReport = printed.filter Printed.isReport := by
  have none : things.filter Printed.isReport = [] := by simpa using lines
  rw [List.filter_append, none, List.append_nil]

section Showing

variable {o o' : Outcome} (agrees : o.Agrees o')
include agrees

theorem agrees_showing (things : List Printed) :
    (showing console things o).Agrees (showing console things o') := by
  cases refused : console.refused? things with
  | none =>
    rw [showing_of_shown refused, showing_of_shown refused]
    refine ⟨agrees.exitCode, agrees.fault, agrees.unshown, agrees.generation, ?_⟩
    rw [List.filter_append, List.filter_append, agrees.reports]
  | some thing =>
    rw [showing_of_refused refused, showing_of_refused refused]
    refine ⟨rfl, agrees.fault, rfl, agrees.generation, ?_⟩
    rw [List.filter_append, List.filter_append, agrees.reports]

theorem agrees_showing_lines_iff {things things' : List Printed}
    (lines : ∀ thing ∈ things, thing.isReport = false)
    (lines' : ∀ thing ∈ things', thing.isReport = false) (shown : o.unshown = none)
    (shown' : o'.unshown = none) :
    (showing console things o).Agrees (showing console things' o') ↔
      (console.refused? things).isSome = (console.refused? things').isSome := by
  constructor
  · intro agrees
    rw [← unshown_showing shown, ← unshown_showing shown']
    exact agrees.unshown
  · intro same
    cases refused : console.refused? things with
    | none =>
      have refused' : console.refused? things' = none := by simpa [refused] using same
      rw [showing_of_shown refused, showing_of_shown refused']
      refine ⟨agrees.exitCode, agrees.fault, agrees.unshown, agrees.generation, ?_⟩
      rw [filter_isReport_append lines, filter_isReport_append lines', agrees.reports]
    | some thing =>
      have isSome : (console.refused? things').isSome = true := by simpa [refused] using same.symm
      obtain ⟨thing', refused'⟩ := Option.isSome_iff_exists.1 isSome
      rw [showing_of_refused refused, showing_of_refused refused']
      refine ⟨rfl, agrees.fault, rfl, agrees.generation, ?_⟩
      rw [filter_isReport_append fun _ h => lines _ (Console.mem_of_mem_shown h),
        filter_isReport_append fun _ h => lines' _ (Console.mem_of_mem_shown h), agrees.reports]

end Showing

theorem agrees_finished_iff (printed : List Printed) (g : Generation) (isNew : Bool) :
    (finished console printed true verbose g).Agrees
        (finished console printed false verbose { g with written := isNew }) ↔
      ShowsAlike console verbose { g with written := isNew } := by
  let exitCode := if g.hasErrors then 1 else 0
  have before : ({ exitCode, printed, generation := some g } : Outcome).Agrees
      { exitCode, printed, generation := some { g with written := isNew } } :=
    ⟨rfl, rfl, rfl, rfl, rfl⟩
  have same : tables { g with written := isNew } = tables g := rfl
  have dry : fileLines true verbose { g with written := isNew } = fileLines true verbose g := rfl
  rw [finished, finished, closing_eq, closing_eq, showing_append, showing_append, ShowsAlike, same,
    dry]
  by_cases shown : console.refused? (tables g) = none
  · rw [if_pos shown, if_pos shown]
    have after : (showing console (tables g) _).Agrees (showing console (tables g) _) :=
      agrees_showing before (tables g)
    rw [showing_of_shown shown, showing_of_shown shown] at after
    have lines (dryRun : Bool) := isReport_fileLines dryRun verbose
    refine (agrees_showing_lines_iff after (lines true _) (lines false _) rfl rfl).trans ?_
    exact ⟨fun same _ => same, fun same => same shown⟩
  · rw [if_neg shown, if_neg shown]
    exact ⟨fun _ h => absurd h shown, fun _ => agrees_showing before (tables g)⟩

theorem not_agrees_ofResult (printed : List Printed) (g : Generation) (stop : Stop) :
    ¬(ofResult console printed true verbose (.ok g)).Agrees
      (ofResult console printed false verbose (.error stop)) := by
  intro agrees
  have generation := agrees.generation
  rw [ofResult, finished, generation_showing] at generation
  cases stop with
  | told kind message =>
    rw [ofResult, failed, generation_showing] at generation
    cases generation
  | _ => cases generation

end Outcome

theorem agrees_result_iff (printed : List Printed) :
    (Outcome.ofResult console printed true verbose (result console env setup q true disk)).Agrees
        (.ofResult console printed false verbose (result console env setup q false disk)) ↔
      (∀ stop, result console env setup q false disk = .error stop → ¬stop.IsAtFile) ∧
        ∀ g, result console env setup q false disk = .ok g → ShowsAlike console verbose g := by
  have ofDry : result console env setup q true disk = made console env setup q disk := rfl
  have ofWriting : result console env setup q false disk =
    made console env setup q disk >>= written disk := rfl
  rw [ofDry, ofWriting]
  cases hmade : made console env setup q disk with
  | error stop =>
    have alike : Outcome.ofResult console printed true verbose (.error stop) =
        .ofResult console printed false verbose (.error stop) := by
      cases stop <;> rfl
    refine ⟨fun _ => ⟨fun later h => ?_, fun g h => ?_⟩, fun _ => alike ▸ ⟨rfl, rfl, rfl, rfl, rfl⟩⟩
    · cases h
      exact not_isAtFile_of_made hmade
    · cases h
  | ok g =>
    change (Outcome.ofResult _ _ _ _ _).Agrees (.ofResult _ _ _ _ (written disk g)) ↔
      (∀ stop, written disk g = .error stop → _) ∧ ∀ g', written disk g = .ok g' → _
    cases hwritten : written disk g with
    | error stop =>
      refine ⟨fun agrees => ?_, fun free => ?_⟩
      · exact absurd agrees (Outcome.not_agrees_ofResult printed g stop)
      · exact absurd (isAtFile_of_written hwritten) (free.1 stop rfl)
    | ok g' =>
      obtain ⟨isNew, rfl⟩ := exists_eq_of_written hwritten
      refine (Outcome.agrees_finished_iff printed g isNew).trans ⟨fun alike => ⟨?_, ?_⟩, ?_⟩
      · rintro _ ⟨⟩
      · rintro _ ⟨⟩
        exact alike
      · exact fun free => free.2 _ rfl

variable [FileSystem.IsReadable σ]

/-- A dry run leaves all files as they are, and ends like the other run just if that one does not
stop at the file, be it with the failure to write or with the one fault that goes past it, and the
console can show the lines about the file of both runs or of neither. A run without a fault that has
shown all that it had to show ends with the exit code 0 just if it comes to a result without errors,
else with 1. The setup of logging is one and the same for both. -/
theorem execute_dryRun (console : Console) (env : Environment)
    (setup : Option Logging.SetupFault) (q : Request) (disk : σ) :
    let run dryRun := (execute console env setup (q.command dryRun) : StateM σ _).run disk
    (run true).2 = disk ∧
    ((run true).1.Agrees (run false).1 ↔
      (∀ message, result console env setup q false disk ≠ .error (.told .write message)) ∧
      (run false).1.fault ≠ some (.file .nullInName) ∧
      ∀ g, result console env setup q false disk = .ok g → ShowsAlike console q.verbose g) ∧
    (∀ dryRun, ((run dryRun).1.unshown ≠ none → (run dryRun).1.exitCode = 1) ∧
      ((run dryRun).1.fault = none → (run dryRun).1.unshown = none →
        ((run dryRun).1.exitCode = 0 ∨ (run dryRun).1.exitCode = 1) ∧
        ((run dryRun).1.exitCode = 0 ↔ ∃ g, result console env setup q dryRun disk = .ok g ∧
          ∀ d ∈ g.diagnostics, d.severity ≠ .error))) ∧
    loggingFault env (q.command true) = loggingFault env (q.command false) := by
  intro run
  have ends (dryRun : Bool) : (run dryRun).1 = _ :=
    (run_execute console env setup q dryRun disk).1
  refine ⟨(run_execute console env setup q true disk).2 rfl, ?_, fun dryRun => ?_, ?_⟩
  · rw [ends true, ends false, agrees_result_iff, Ne, Outcome.fault_ofResult_eq_some_iff,
      ← and_assoc]
    refine and_congr_left fun _ => ⟨fun free => ?_, ?_⟩
    · exact ⟨fun message h => free _ h (.inl ⟨message, rfl⟩), fun h => free _ h (.inr rfl)⟩
    · rintro ⟨told, broken⟩ stop h (⟨message, rfl⟩ | rfl)
      · exact told message h
      · exact broken h
  · rw [ends dryRun]
    exact ⟨Outcome.exitCode_ofResult_of_unshown, fun _ shown =>
      ⟨Outcome.exitCode_ofResult .., Outcome.exitCode_ofResult_eq_zero_iff shown⟩⟩
  · exact loggingFault_command env q true false

def nullDisk : Disk :=
  (Disk.empty.put ["work", "snapshot.yaml"]
    (.file "controllers:\n- name: UserController\n".toUTF8)).put ["work", "config.yaml"]
    (.file "output_dir: \"app\\0\"\n".toUTF8)

theorem execute_dryRun_written :
    let q : Request := { snapshot := "snapshot.yaml", basePath := some "/api" }
    let run dryRun := (execute .markup {} none (q.command dryRun) : StateM Disk _).run nullDisk
    (run true).2 = nullDisk ∧ (run true).1.Agrees (run false).1 ∧
      (run false).1.generation.map (·.written) = some true := by
  intro q run
  have comes : (result .markup {} none q false nullDisk).toOption.map (fun g =>
      (g.written, (Console.markup.refused? (fileLines true false g)).isSome,
        (Console.markup.refused? (fileLines false false g)).isSome)) =
        some (true, false, false) := by
    decide +kernel
  have ends : (run false).1 = _ := (run_execute .markup {} none q false nullDisk).1
  obtain ⟨unchanged, agrees, -⟩ := execute_dryRun .markup {} none q nullDisk
  rcases hresult : result .markup {} none q false nullDisk with stop | g
  · rw [hresult] at comes
    cases comes
  rw [hresult] at comes ends agrees
  simp only [Except.toOption, Option.map_some, Option.some.injEq, Prod.mk.injEq] at comes
  obtain ⟨written, dry, wet⟩ := comes
  refine ⟨unchanged, agrees.2 ⟨?_, ?_, ?_⟩, ?_⟩
  · rintro _ ⟨⟩
  · rw [(run_execute .markup {} none q false nullDisk).1, Ne, Outcome.fault_ofResult_eq_some_iff,
      hresult]
    rintro ⟨⟩
  · rintro _ ⟨⟩ _
    exact dry.trans wet.symm
  · rw [ends, Outcome.ofResult, finished, Outcome.generation_showing]
    exact congrArg some written

example :
    let g : Generation :=
      { outputPath := Path.parse "x[/green][green]/DataService.ts", modules := ["DataService"] }
    ¬ShowsAlike .markup false g := by
  unfold ShowsAlike
  decide +kernel

/-- With the null character in the name of the directory the run that writes breaks off, and tells
of no failure to write, but the dry run ends well. -/
theorem execute_dryRun_null :
    let q : Request :=
      { snapshot := "snapshot.yaml", config := some "config.yaml", basePath := some "/api" }
    let run dryRun := (execute .markup {} none (q.command dryRun) : StateM Disk _).run nullDisk
    (∀ message, result .markup {} none q false nullDisk ≠ .error (.told .write message)) ∧
      (run true).1.exitCode = 0 ∧ (run false).1.exitCode = 1 ∧ (run false).1.generation = none := by
  intro q run
  have stops : result .markup {} none q false nullDisk = .error (.broken (.file .nullInName)) :=
    eq_broken_iff.2 (by decide +kernel)
  have ends : (run false).1 = _ := (run_execute .markup {} none q false nullDisk).1
  rw [stops] at ends ⊢
  refine ⟨fun message h => ?_, by decide +kernel, ?_, ?_⟩
  · cases h
  · rw [ends]
    rfl
  · rw [ends]
    rfl

end CommandLine

end ServiceClient

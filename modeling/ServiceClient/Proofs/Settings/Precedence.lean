import ServiceClient.CommandLine.Run
import ServiceClient.Disk
import ServiceClient.Proofs.Document
import ServiceClient.Proofs.Settings.Fields

/-!
Where the settings of a run come from. Options of the command line win over the file, and the file
over the environment, except where the file states a default: that is not listed when the
environment is asked again, and the environment wins over it.
-/

namespace ServiceClient

open Validation

namespace Validation.FieldRule

variable {α : Type} [DecidableEq α] {f : FieldRule α} {write : α → Value}

theorem holds_listed_iff (hw : f.IsWrittenBy write) {stated missing : Option Value} {a b : α}
    (ha : f.Holds stated a) :
    f.Holds ((f.listed write a).or missing) b ↔
      if a = f.default then f.Holds missing b else b = a := by
  by_cases h : a = f.default
  · simp [listed, h]
  rw [if_neg h]
  cases stated with
  | none => exact absurd ha h
  | some v =>
    have again : f.check (write a) = .accepted a := hw v a ha
    simp [listed, h, Holds, again, eq_comm]

end Validation.FieldRule

def Environment.value? (env : Environment) (name : String) : Option Value :=
  if name = "base_path" then env.basePath.map .text
  else if name = "output_dir" then env.outputDir.map .text
  else none

namespace Settings

structure Sources where
  options : String → Option Value
  file : String → Option Value
  environment : String → Option Value

namespace Sources

variable (o : Sources)

/-- The options win over the file, and the file over the environment. -/
def stated (name : String) : Option Value :=
  (o.options name).or ((o.file name).or (o.environment name))

/-- No option states the field, the file states its default, and the environment something else. -/
def Contests {α : Type} (f : FieldRule α) (name : String) : Prop :=
  o.options name = none ∧ (∃ v ∈ o.file name, f.check v = .accepted f.default) ∧
    ∃ v ∈ o.environment name, f.check v ≠ .accepted f.default

instance {α : Type} [DecidableEq α] (f : FieldRule α) (name : String) :
    Decidable (o.Contests f name) :=
  inferInstanceAs (Decidable (_ ∧ _ ∧ _))

variable {o} {α : Type} [DecidableEq α] {f : FieldRule α} {write : α → Value} {name : String}
  {a b : α}

theorem holds_iff (hw : f.IsWrittenBy write)
    (ha : f.Holds ((o.file name).or (o.environment name)) a)
    (hb : f.Holds ((o.options name).or ((f.listed write a).or (o.environment name))) b) :
    f.Holds (o.stated name) b ↔ ¬ o.Contests f name := by
  rw [stated, Contests]
  cases option : o.options name with
  | some v =>
    rw [option] at hb
    simpa using hb
  | none =>
    rw [option, Option.none_or, FieldRule.holds_listed_iff hw ha] at hb
    cases file : o.file name with
    | none =>
      rw [file, Option.none_or] at ha
      have read : f.Holds (o.environment name) b := by
        split at hb
        · exact hb
        · exact hb ▸ ha
      simpa using read
    | some v =>
      rw [file, Option.some_or] at ha
      have accepted : f.check v = .accepted a := ha
      by_cases h : a = f.default
      · rw [if_pos h] at hb
        cases env : o.environment name with
        | none =>
          rw [env] at hb
          have default : b = f.default := hb
          simp [FieldRule.Holds, accepted, h, default]
        | some w =>
          rw [env] at hb
          have environment : f.check w = .accepted b := hb
          simp [FieldRule.Holds, accepted, h, environment, eq_comm]
      · rw [if_neg h] at hb
        simp [FieldRule.Holds, accepted, h, hb]

theorem holds_of_environment_none (hw : f.IsWrittenBy write) (silent : o.environment name = none)
    (ha : f.Holds ((o.file name).or (o.environment name)) a)
    (hb : f.Holds ((o.options name).or ((f.listed write a).or (o.environment name))) b) :
    f.Holds (o.stated name) b :=
  (holds_iff hw ha hb).2 fun contested => by simp [Contests, silent] at contested

theorem madeOf_iff {listed : String → Option Value} {loaded s : Settings}
    (silent : ∀ name, name ≠ "base_path" → name ≠ "output_dir" → o.environment name = none)
    (read : MadeOf (fun name => (o.file name).or (o.environment name)) loaded)
    (lists : Lists listed loaded)
    (again : MadeOf (fun name => (o.options name).or ((listed name).or (o.environment name))) s) :
    MadeOf o.stated s ↔
      ¬ o.Contests Field.basePath "base_path" ∧ ¬ o.Contests Field.outputDir "output_dir" := by
  have basePath := holds_iff isWrittenBy_basePath read.basePath (lists.basePath ▸ again.basePath)
  have outputDir :=
    holds_iff isWrittenBy_outputDir read.outputDir (lists.outputDir ▸ again.outputDir)
  constructor
  · intro made
    exact ⟨basePath.1 made.basePath, outputDir.1 made.outputDir⟩
  rintro ⟨base, dir⟩
  constructor
  case basePath => exact basePath.2 base
  case outputDir => exact outputDir.2 dir
  case moduleName =>
    exact holds_of_environment_none isWrittenBy_moduleName (silent _ (by decide) (by decide))
      read.moduleName (lists.moduleName ▸ again.moduleName)
  case controllerSuffix =>
    exact holds_of_environment_none isWrittenBy_controllerSuffix (silent _ (by decide) (by decide))
      read.controllerSuffix (lists.controllerSuffix ▸ again.controllerSuffix)
  case modelImportPath =>
    exact holds_of_environment_none isWrittenBy_modelImportPath (silent _ (by decide) (by decide))
      read.modelImportPath (lists.modelImportPath ▸ again.modelImportPath)
  case duplicatePolicy =>
    exact holds_of_environment_none isWrittenBy_duplicatePolicy (silent _ (by decide) (by decide))
      read.duplicatePolicy (lists.duplicatePolicy ▸ again.duplicatePolicy)
  case typeOverrides =>
    exact holds_of_environment_none isWrittenBy_typeOverrides (silent _ (by decide) (by decide))
      read.typeOverrides (lists.typeOverrides ▸ again.typeOverrides)

end Sources

section Lookup

theorem get?_supply (name key : String) (value : Option String) (entries : List (Value × Value)) :
    Value.get? name (supply key value entries) =
      (Value.get? name entries).or (if key = name then value.map .text else none) := by
  unfold supply
  cases found : Value.get? key entries with
  | some v =>
    by_cases h : key = name
    · simp [← h, found]
    · simp [h]
  | none =>
    cases value with
    | none => simp
    | some s => simp [Value.get?_append, Value.get?]

theorem get?_supplied (env : Environment) (name : String) (entries : List (Value × Value)) :
    Value.get? name (supplied env entries) =
      (Value.get? name entries).or (env.value? name) := by
  rw [supplied, get?_supply, get?_supply, Option.or_assoc, Environment.value?]
  congr 1
  by_cases base : name = "base_path"
  · simp [base]
  by_cases dir : name = "output_dir"
  · simp [dir]
  · simp [base, dir, eq_comm]

def optionsValue? (basePath outputDir : Option String) (lenientDuplicates : Bool) (name : String) :
    Option Value :=
  if name = "base_path" then basePath.map .text
  else if name = "output_dir" then outputDir.map .text
  else if name = "duplicate_policy" ∧ lenientDuplicates then some (.text "lenient")
  else none

theorem get?_put (name key : String) (value : Option String) (entries : List (Value × Value)) :
    Value.get? name (put key value entries) =
      (if key = name then value.map .text else none).or (Value.get? name entries) := by
  cases value with
  | none => simp [put]
  | some s =>
    rw [put, Value.get?_insert]
    split <;> rfl

theorem get?_over (o : Options) (name : String) (entries : List (Value × Value)) :
    Value.get? name (o.over entries) =
      (optionsValue? o.basePath (o.outputDir.map Path.render) o.lenientDuplicates name).or
        (Value.get? name entries) := by
  rw [Options.over, get?_put, get?_put, get?_put, ← Option.or_assoc, ← Option.or_assoc,
    optionsValue?]
  congr 1
  by_cases base : name = "base_path"
  · simp [base]
  by_cases dir : name = "output_dir"
  · simp [dir]
  by_cases policy : name = "duplicate_policy"
  · cases o.lenientDuplicates <;> simp [policy]
  · simp [base, dir, policy, Ne.symm base, Ne.symm dir, Ne.symm policy]

end Lookup

section Run

def entriesOf (content : Except FileError ByteArray) : List (Value × Value) :=
  ((Document.value? content).bind Value.entries?).getD []

theorem madeOf_of_ofProperties {env : Environment} {entries : List (Value × Value)} {s : Settings}
    (h : ofProperties env entries = .ok s) :
    MadeOf (fun name => (Value.get? name entries).or (env.value? name)) s := by
  have read := madeOf_of_ofEntries (Checked.toExcept_eq_ok_iff.1 (Outcome.mapError_eq_ok_iff.1 h))
  simpa only [get?_supplied] using read

theorem madeOf_of_load {env : Environment} {path : Path} {content : Except FileError ByteArray}
    {s : Settings} (h : load env path content = .ok s) :
    MadeOf (fun name => (Value.get? name (entriesOf content)).or (env.value? name)) s := by
  obtain ⟨v, document, h⟩ := Document.exists_value_of_load h
  rw [entriesOf, document, Option.bind_some]
  split at h
  · exact madeOf_of_ofProperties h
  · next _ entries _ stated =>
    rw [stated]
    exact madeOf_of_ofProperties h
  · contradiction

theorem madeOf_of_build {env : Environment} {file : Option Settings} {options : Options}
    {s : Settings} (h : build env file options = .ok s) :
    MadeOf (fun name =>
      (optionsValue? options.basePath (options.outputDir.map Path.render) options.lenientDuplicates
        name).or ((Value.get? name ((file.map properties).getD [])).or (env.value? name))) s := by
  simpa only [get?_over, Option.or_assoc] using madeOf_of_ofProperties h

theorem exists_file_of_settings {env : Environment} {disk : Disk} {name : String}
    {options : Options} {s : Settings}
    (h : ((CommandLine.settings env (some name) options : StateM Disk _).run disk).1 = .ok s) :
    ∃ file, load env (Path.parse name) (disk.read (Path.parse name)) = .ok file ∧
      build env (some file) options = .ok s := by
  simp only [CommandLine.settings, FileSystem.read, StateT.run_bind, StateT.run_get, StateT.run_pure,
    pure_bind] at h
  cases read : load env (Path.parse name) (disk.read (Path.parse name)) with
  | error e =>
    rw [read] at h
    contradiction
  | ok file =>
    rw [read] at h
    exact ⟨file, rfl, Outcome.mapError_eq_ok_iff.1 h⟩

/-- The sources of the settings of a run: the options as they are given, the file if one is named,
and the surroundings. -/
def sources (env : Environment) (disk : Disk) (config basePath outputDir : Option String)
    (lenientDuplicates : Bool) : Sources where
  options := optionsValue? basePath outputDir lenientDuplicates
  file name := Value.get? name
    ((config.map fun file => entriesOf (disk.read (Path.parse file))).getD [])
  environment := env.value?

theorem madeOf_given {basePath outputDir : Option String} {lenientDuplicates : Bool}
    {missing : String → Option Value} {s : Settings}
    (h : MadeOf (fun name => (optionsValue? basePath ((outputDir.map Path.parse).map Path.render)
      lenientDuplicates name).or (missing name)) s) :
    MadeOf (fun name => (optionsValue? basePath outputDir lenientDuplicates name).or
      (missing name)) s := by
  refine { h with outputDir := ?_ }
  have dir := h.outputDir
  cases outputDir with
  | none => exact dir
  | some d =>
    obtain read : Path.parse (Path.parse d).render = s.outputDir := Checked.accepted.inj dir
    rw [Path.parse_render (Path.normal_parse d)] at read
    exact congrArg Checked.accepted read

/-- Settings of a run are made of what the options state, else the file, else the environment, if
and only if the environment contests neither the base path nor the directory. -/
theorem madeOf_sources_iff {env : Environment} {disk : Disk}
    {config basePath outputDir : Option String} {lenientDuplicates : Bool} {s : Settings}
    (h : ((CommandLine.settings env config
      { basePath, outputDir := outputDir.map Path.parse, lenientDuplicates } :
        StateM Disk _).run disk).1 = .ok s) :
    MadeOf (sources env disk config basePath outputDir lenientDuplicates).stated s ↔
      ¬ (sources env disk config basePath outputDir lenientDuplicates).Contests
          Field.basePath "base_path" ∧
        ¬ (sources env disk config basePath outputDir lenientDuplicates).Contests
          Field.outputDir "output_dir" := by
  cases config with
  | none =>
    have made := madeOf_given (madeOf_of_build (Outcome.mapError_eq_ok_iff.1 h))
    refine iff_of_true made ⟨?_, ?_⟩ <;> simp [Sources.Contests, sources, Value.get?]
  | some name =>
    have silent : ∀ field, field ≠ "base_path" → field ≠ "output_dir" → env.value? field = none :=
      fun field base dir => by rw [Environment.value?, if_neg base, if_neg dir]
    obtain ⟨file, read, built⟩ := exists_file_of_settings h
    exact Sources.madeOf_iff silent (madeOf_of_load read) (lists_properties file)
      (madeOf_given (madeOf_of_build built))

def configDisk (content : String) : Disk :=
  Disk.empty.put ["work", "client.yaml"] (.file content.toUTF8)

theorem madeOf_sources_of_each :
    let env : Environment := { basePath := some "/env", outputDir := some "out" }
    let disk := configDisk "base_path: /file\nmodule_name: Api\n"
    let s : Settings :=
      { basePath := "/api", outputDir := Path.parse "out", moduleName := "Api",
        duplicatePolicy := .lenient }
    ((CommandLine.settings env (some "client.yaml")
      { basePath := some " /api ", outputDir := none, lenientDuplicates := true } :
        StateM Disk _).run disk).1 = .ok s ∧
    MadeOf (sources env disk (some "client.yaml") (some " /api ") none true).stated s := by
  intro env disk s
  have returns : ((CommandLine.settings env (some "client.yaml")
      { basePath := some " /api ", outputDir := none, lenientDuplicates := true } :
        StateM Disk _).run disk).1 = .ok s := by
    decide +kernel
  have uncontested := @madeOf_sources_iff env disk (some "client.yaml") (some " /api ") none true s
  refine ⟨returns, (uncontested returns).2 ⟨?_, ?_⟩⟩
  · decide +kernel
  · decide +kernel

/-- A file that turns generation off by an empty base path, which the environment turns on again. -/
theorem not_madeOf_sources :
    ((CommandLine.settings { basePath := some "/env" } (some "client.yaml") {} :
        StateM Disk _).run (configDisk "base_path: ''\n")).1 =
      .ok { basePath := "/env" } ∧
    ¬ MadeOf (sources { basePath := some "/env" } (configDisk "base_path: ''\n")
      (some "client.yaml") none none false).stated { basePath := "/env" } := by
  refine ⟨by decide +kernel, fun made => ?_⟩
  have stated : Field.basePath.Holds _ "/env" := made.basePath
  revert stated
  decide +kernel

end Run

end Settings

end ServiceClient

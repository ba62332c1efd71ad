import ServiceClient.Proofs.Path
import ServiceClient.Proofs.Text.Strip
import ServiceClient.Proofs.Validation.Accepted
import ServiceClient.Proofs.Value
import ServiceClient.Settings.Reading

namespace ServiceClient

namespace Validation

structure FieldRule (α : Type) where
  check : Value → Checked α
  default : α

namespace FieldRule

variable {α : Type}

def Holds (f : FieldRule α) (v : Option Value) (a : α) : Prop :=
  match v with
  | some v => f.check v = .accepted a
  | none => a = f.default

instance [DecidableEq α] (f : FieldRule α) (v : Option Value) (a : α) : Decidable (f.Holds v a) :=
  match v with
  | some v => inferInstanceAs (Decidable (f.check v = .accepted a))
  | none => inferInstanceAs (Decidable (a = f.default))

def IsWrittenBy (f : FieldRule α) (write : α → Value) : Prop :=
  ∀ v a, f.check v = .accepted a → f.check (write a) = .accepted a

def listed [DecidableEq α] (f : FieldRule α) (write : α → Value) (a : α) : Option Value :=
  if a = f.default then none else some (write a)

theorem holds_of_fieldOr {f : FieldRule α} {entries : List (Value × Value)} {name : String} {a : α}
    (h : fieldOr entries name f.default f.check = .accepted a) :
    f.Holds (Value.get? name entries) a := by
  rw [fieldOr] at h
  cases stated : Value.get? name entries with
  | some v =>
    rw [stated] at h
    exact Checked.under_eq_accepted_iff.1 h
  | none =>
    rw [stated] at h
    cases h
    rfl

end FieldRule

end Validation

namespace Settings

open Validation

namespace Field

def basePath : FieldRule String := ⟨fun v => (text v).map Text.trim, ""⟩

def outputDir : FieldRule Path := ⟨fun v => (path v).map Path.parse, {}⟩

def moduleName : FieldRule String := ⟨identifier, "DataService"⟩

def controllerSuffix : FieldRule String := ⟨text, "Controller"⟩

def modelImportPath : FieldRule String := ⟨nonEmptyText, "."⟩

def duplicatePolicy : FieldRule DuplicatePolicy :=
  ⟨choice DuplicatePolicy.ofName? (.notLiteral (DuplicatePolicy.all.map DuplicatePolicy.name)),
    .strict⟩

def typeOverrides : FieldRule (List (String × String)) := ⟨textMapping, []⟩

end Field

/-- Settings that hold in each field what is stated for its name. -/
structure MadeOf (stated : String → Option Value) (s : Settings) : Prop where
  basePath : Field.basePath.Holds (stated "base_path") s.basePath
  outputDir : Field.outputDir.Holds (stated "output_dir") s.outputDir
  moduleName : Field.moduleName.Holds (stated "module_name") s.moduleName
  controllerSuffix : Field.controllerSuffix.Holds (stated "controller_suffix") s.controllerSuffix
  modelImportPath : Field.modelImportPath.Holds (stated "model_import_path") s.modelImportPath
  duplicatePolicy : Field.duplicatePolicy.Holds (stated "duplicate_policy") s.duplicatePolicy
  typeOverrides : Field.typeOverrides.Holds (stated "type_overrides") s.typeOverrides

theorem madeOf_of_ofEntries {entries : List (Value × Value)} {s : Settings}
    (h : ofEntries entries = .accepted s) : MadeOf (Value.get? · entries) s := by
  have made := eq_accepted_of_closed h
  simp only [Checked.seq_eq_accepted_iff, Checked.map_eq_accepted_iff] at made
  obtain ⟨_, _, ⟨_, _, ⟨_, _, ⟨_, _, ⟨_, _, ⟨_, _, ⟨_, basePath, rfl⟩, outputDir, rfl⟩,
    moduleName, rfl⟩, suffix, rfl⟩, importPath, rfl⟩, policy, rfl⟩, overrides, rfl⟩ := made
  constructor
  · exact FieldRule.holds_of_fieldOr basePath
  · exact FieldRule.holds_of_fieldOr outputDir
  · exact FieldRule.holds_of_fieldOr moduleName
  · exact FieldRule.holds_of_fieldOr suffix
  · exact FieldRule.holds_of_fieldOr importPath
  · exact FieldRule.holds_of_fieldOr policy
  · exact FieldRule.holds_of_fieldOr overrides

section Written

theorem isWrittenBy_basePath : Field.basePath.IsWrittenBy .text := by
  intro v a h
  have trimmed : Text.trim a = a := by
    cases hv : text v with
    | rejected issues => simp [Field.basePath, hv, Checked.map] at h
    | accepted s =>
      simp only [Field.basePath, hv, Checked.map, Checked.accepted.injEq] at h
      rw [← h, Text.trim_trim]
  exact congrArg Checked.accepted trimmed

theorem isWrittenBy_outputDir : Field.outputDir.IsWrittenBy (.text ·.render) := by
  intro v a h
  have read : Path.parse a.render = a := by
    cases v with
    | text s =>
      obtain rfl := Checked.accepted.inj h
      exact Path.parse_render (Path.normal_parse s)
    | _ => contradiction
  exact congrArg Checked.accepted read

theorem isWrittenBy_controllerSuffix : Field.controllerSuffix.IsWrittenBy .text :=
  fun _ _ _ => rfl

theorem isWrittenBy_modelImportPath : Field.modelImportPath.IsWrittenBy .text := by
  intro v a h
  obtain ⟨s, _, h⟩ := Checked.andThen_eq_accepted_iff.1 h
  split at h
  · contradiction
  · next filled =>
    obtain rfl := Checked.accepted.inj h
    exact if_neg filled

theorem isWrittenBy_moduleName : Field.moduleName.IsWrittenBy .text := by
  intro v a h
  obtain ⟨s, filled, h⟩ := Checked.andThen_eq_accepted_iff.1 h
  split at h
  · next identifier =>
    obtain rfl := Checked.accepted.inj h
    refine Checked.andThen_eq_accepted_iff.2 ⟨s, isWrittenBy_modelImportPath v s filled, ?_⟩
    exact if_pos identifier
  · contradiction

theorem isWrittenBy_duplicatePolicy : Field.duplicatePolicy.IsWrittenBy (.text ·.name) := by
  intro _ a _
  cases a <;> rfl

def writtenOverrides (overrides : List (String × String)) : Value :=
  .mapping (overrides.map fun o => (.text o.1, .text o.2))

theorem eachText_written (overrides : List (String × String)) :
    eachText (overrides.map fun o => (.text o.1, .text o.2)) = .accepted overrides := by
  induction overrides with
  | nil => rfl
  | cons o overrides ih =>
    rw [List.map_cons, eachText, ih]
    rfl

theorem isWrittenBy_typeOverrides : Field.typeOverrides.IsWrittenBy writtenOverrides :=
  fun _ overrides _ => eachText_written overrides

end Written

section Properties

theorem get?_stated {α : Type} [DecidableEq α] (name key : String) (a default : α)
    (write : α → Value) :
    Value.get? name (stated key a default write) =
      if key = name then if a = default then none else some (write a) else none := by
  rw [stated]
  by_cases h : a = default <;> simp [h, Value.get?]

structure Lists (listed : String → Option Value) (s : Settings) : Prop where
  basePath : listed "base_path" = Field.basePath.listed .text s.basePath
  outputDir : listed "output_dir" = Field.outputDir.listed (.text ·.render) s.outputDir
  moduleName : listed "module_name" = Field.moduleName.listed .text s.moduleName
  controllerSuffix :
    listed "controller_suffix" = Field.controllerSuffix.listed .text s.controllerSuffix
  modelImportPath :
    listed "model_import_path" = Field.modelImportPath.listed .text s.modelImportPath
  duplicatePolicy :
    listed "duplicate_policy" = Field.duplicatePolicy.listed (.text ·.name) s.duplicatePolicy
  typeOverrides :
    listed "type_overrides" = Field.typeOverrides.listed writtenOverrides s.typeOverrides

theorem lists_properties (s : Settings) : Lists (Value.get? · (properties s)) s := by
  constructor <;> simp [properties, Value.get?_append, get?_stated] <;> rfl

end Properties

end Settings

end ServiceClient

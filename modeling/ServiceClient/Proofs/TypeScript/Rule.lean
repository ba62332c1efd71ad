import Mathlib.Data.List.Basic
import ServiceClient.Proofs.TypeScript.Construction

/-!
The rule of a type, told by its name and the number of its generic arguments. The tables of names
have nothing in common for the same number of arguments, so after overrides and models the order in
which the cases are tried does not matter.
-/

namespace ServiceClient.TypeScript

def plainNames : List String := dates ++ numbers ++ booleans ++ strings ++ untyped ++ empties

def knownNames : Nat → List String
  | 0 => plainNames
  | 1 => wrappers ++ sequences
  | 2 => dictionaries
  | _ => []

def arityFault? (name : String) : Option ArityFault :=
  if name ∈ sequences then some .sequence
  else if name ∈ dictionaries then some .dictionary
  else none

theorem primitiveExpression?_isSome_iff {name : String} :
    (primitiveExpression? name).isSome ↔
      name ∈ numbers ++ booleans ++ strings ++ untyped ++ empties := by
  simp only [primitiveExpression?, List.mem_append]
  split_ifs <;> simp_all

theorem mem_plainNames_iff {name : String} :
    name ∈ plainNames ↔ name ∈ dates ∨ (primitiveExpression? name).isSome := by
  rw [primitiveExpression?_isSome_iff]
  simp only [plainNames, List.mem_append]
  tauto

theorem not_mem_wrappers_of_mem_sequences :
    ∀ name ∈ sequences, name ∉ wrappers := by
  decide

theorem primitiveExpression?_of_mem_dates :
    ∀ name ∈ dates, primitiveExpression? name = none := by
  decide

theorem not_mem_sequences_of_mem_dictionaries : ∀ name ∈ dictionaries, name ∉ sequences := by
  decide

namespace Mapping

variable {m : Mapping} {t : HostType} {r : Rule}

def IsOrdinary (m : Mapping) (t : HostType) : Prop :=
  m.overrides.lookup t.simpleName = none ∧ m.registry.isModel t = false

instance (m : Mapping) : DecidablePred m.IsOrdinary := fun _ => inferInstanceAs (Decidable (_ ∧ _))

def IsUnmappable (m : Mapping) (t : HostType) : Prop :=
  m.IsOrdinary t ∧ t.simpleName ∉ knownNames t.arguments.length

instance (m : Mapping) : DecidablePred m.IsUnmappable :=
  fun _ => inferInstanceAs (Decidable (_ ∧ _))

/-- The cases of a type, in any order. -/
inductive FallsUnder (m : Mapping) (t : HostType) : Rule → Prop
  | override {expression : String} (known : m.overrides.lookup t.simpleName = some expression) :
    FallsUnder m t (.atom { expression, isPrimitive := true })
  | model (known : m.IsModel t) : FallsUnder m t
    (.atom { expression := t.simpleName, isModel := true, modelName := some t.simpleName })
  | wrapper {content : HostType} (ordinary : m.IsOrdinary t) (name : t.simpleName ∈ wrappers)
    (arguments : t.arguments = [content]) : FallsUnder m t (.wrapper content)
  | date (ordinary : m.IsOrdinary t) (name : t.simpleName ∈ dates) (arguments : t.arguments = []) :
    FallsUnder m t (.atom { expression := "moment.Moment", isDate := true, isPrimitive := true })
  | primitive {expression : String} (ordinary : m.IsOrdinary t)
    (name : primitiveExpression? t.simpleName = some expression) (arguments : t.arguments = []) :
    FallsUnder m t (.atom { expression, isPrimitive := true })
  | sequence {element : HostType} (ordinary : m.IsOrdinary t) (name : t.simpleName ∈ sequences)
    (arguments : t.arguments = [element]) : FallsUnder m t (.sequence element)
  | dictionary {key value : HostType} (ordinary : m.IsOrdinary t)
    (name : t.simpleName ∈ dictionaries) (arguments : t.arguments = [key, value]) :
    FallsUnder m t (.dictionary key value)
  | unmappable (unknown : m.IsUnmappable t) :
    FallsUnder m t (.unmappable (arityFault? t.simpleName))

theorem rule_of_override {expression : String}
    (known : m.overrides.lookup t.simpleName = some expression) :
    m.rule t = .atom { expression, isPrimitive := true } := by
  simp [rule, cases, override?, known]

theorem rule_of_ordinary (ordinary : m.IsOrdinary t) :
    m.rule t = ([wrapper?, date?, primitive?, sequence?, dictionary?].findSome? (· t)).getD
      (.unmappable none) := by
  simp [rule, cases, override?, model?, ordinary.1, ordinary.2]

theorem rule_of_isUnmappable (unknown : m.IsUnmappable t) :
    m.rule t = .unmappable (arityFault? t.simpleName) := by
  obtain ⟨ordinary, name⟩ := unknown
  rw [rule_of_ordinary ordinary, arityFault?]
  rcases harguments : t.arguments with _ | ⟨a, _ | ⟨b, _ | ⟨c, more⟩⟩⟩
  · obtain ⟨date, primitive⟩ : t.simpleName ∉ dates ∧ primitiveExpression? t.simpleName = none := by
      simpa [harguments, knownNames, mem_plainNames_iff] using name
    by_cases hsequence : t.simpleName ∈ sequences <;>
      by_cases hdictionary : t.simpleName ∈ dictionaries <;>
      simp [wrapper?, date?, primitive?, sequence?, dictionary?, *]
  · obtain ⟨wrapper, sequence⟩ : t.simpleName ∉ wrappers ∧ t.simpleName ∉ sequences := by
      simpa [harguments, knownNames] using name
    by_cases hdictionary : t.simpleName ∈ dictionaries <;>
      simp [wrapper?, date?, primitive?, sequence?, dictionary?, *]
  · have dictionary : t.simpleName ∉ dictionaries := by simpa [harguments, knownNames] using name
    by_cases hsequence : t.simpleName ∈ sequences <;>
      simp [wrapper?, date?, primitive?, sequence?, dictionary?, *]
  · by_cases hsequence : t.simpleName ∈ sequences <;>
      by_cases hdictionary : t.simpleName ∈ dictionaries <;>
      simp [wrapper?, date?, primitive?, sequence?, dictionary?, *]

theorem rule_of_fallsUnder (h : m.FallsUnder t r) : m.rule t = r := by
  cases h with
  | override known => exact rule_of_override known
  | model known => exact rule_of_isModel known
  | wrapper ordinary name arguments =>
    rw [rule_of_ordinary ordinary]
    simp [wrapper?, name, arguments]
  | date ordinary name arguments =>
    rw [rule_of_ordinary ordinary]
    simp [wrapper?, date?, name, arguments]
  | primitive ordinary name arguments =>
    have date : t.simpleName ∉ dates := by
      intro date
      simp [primitiveExpression?_of_mem_dates _ date] at name
    rw [rule_of_ordinary ordinary]
    simp [wrapper?, date?, primitive?, date, name, arguments]
  | sequence ordinary name arguments =>
    have wrapper := not_mem_wrappers_of_mem_sequences _ name
    rw [rule_of_ordinary ordinary]
    simp [wrapper?, date?, primitive?, sequence?, wrapper, name, arguments]
  | dictionary ordinary name arguments =>
    have sequence := not_mem_sequences_of_mem_dictionaries _ name
    rw [rule_of_ordinary ordinary]
    simp [wrapper?, date?, primitive?, sequence?, dictionary?, sequence, name, arguments]
  | unmappable unknown => exact rule_of_isUnmappable unknown

theorem exists_fallsUnder_of_isOrdinary (ordinary : m.IsOrdinary t) : ∃ r, m.FallsUnder t r := by
  by_cases name : t.simpleName ∈ knownNames t.arguments.length
  · rcases harguments : t.arguments with _ | ⟨a, _ | ⟨b, _ | ⟨c, more⟩⟩⟩
    · have known : t.simpleName ∈ dates ∨ (primitiveExpression? t.simpleName).isSome := by
        simpa [harguments, knownNames, mem_plainNames_iff] using name
      rcases known with date | primitive
      · exact ⟨_, .date ordinary date harguments⟩
      · obtain ⟨expression, primitive⟩ := Option.isSome_iff_exists.1 primitive
        exact ⟨_, .primitive ordinary primitive harguments⟩
    · have known : t.simpleName ∈ wrappers ∨ t.simpleName ∈ sequences := by
        simpa [harguments, knownNames] using name
      rcases known with wrapper | sequence
      · exact ⟨_, .wrapper ordinary wrapper harguments⟩
      · exact ⟨_, .sequence ordinary sequence harguments⟩
    · exact ⟨_, .dictionary ordinary (by simpa [harguments, knownNames] using name) harguments⟩
    · simp [harguments, knownNames] at name
  · exact ⟨_, .unmappable ⟨ordinary, name⟩⟩

theorem exists_fallsUnder (m : Mapping) (t : HostType) : ∃ r, m.FallsUnder t r := by
  cases known : m.overrides.lookup t.simpleName with
  | some expression => exact ⟨_, .override known⟩
  | none =>
    cases model : m.registry.isModel t with
    | true => exact ⟨_, .model ⟨known, model⟩⟩
    | false => exact exists_fallsUnder_of_isOrdinary ⟨known, model⟩

theorem rule_eq_iff : m.rule t = r ↔ m.FallsUnder t r := by
  refine ⟨?_, rule_of_fallsUnder⟩
  rintro rfl
  obtain ⟨r, h⟩ := m.exists_fallsUnder t
  rwa [rule_of_fallsUnder h]

theorem isUnmappable_iff : m.IsUnmappable t ↔ ∃ fault, m.rule t = .unmappable fault := by
  constructor
  · intro unknown
    exact ⟨_, rule_of_isUnmappable unknown⟩
  · rintro ⟨fault, h⟩
    cases rule_eq_iff.1 h with
    | unmappable unknown => exact unknown

end Mapping

end ServiceClient.TypeScript

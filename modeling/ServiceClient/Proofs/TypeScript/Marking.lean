import ServiceClient.Proofs.HostType.Marking
import ServiceClient.Proofs.TypeScript.Mapping

namespace ServiceClient.TypeScript

def Rule.mapContents (f : HostType → HostType) : Rule → Rule
  | .atom mapped => .atom mapped
  | .wrapper content => .wrapper (f content)
  | .sequence element => .sequence (f element)
  | .dictionary key value => .dictionary (f key) (f value)
  | .unmappable fault => .unmappable fault

theorem findSome?_congr {f g : α → Option β} {as : List α} (same : ∀ a ∈ as, f a = g a) :
    as.findSome? f = as.findSome? g := by
  induction as with
  | nil => rfl
  | cons a as ih =>
    rw [List.forall_mem_cons] at same
    simp only [List.findSome?_cons, same.1, ih same.2]

namespace Mapping

variable {m : Mapping} {names : List String} (registered : names ⊆ m.registry.models)
include registered

theorem isModel_markModels (t : HostType) :
    m.registry.isModel (t.markModels names) = m.registry.isModel t := by
  have known : t.simpleName ∈ names → t.simpleName ∈ m.registry.models := @registered _
  rw [Registry.isModel, Registry.isModel, Bool.eq_iff_iff]
  simp only [HostType.isModel_markModels, HostType.simpleName_markModels, Bool.or_eq_true,
    List.contains_iff_mem]
  tauto

theorem case_markModels {case : HostType → Option Rule} (hcase : case ∈ m.cases) (t : HostType) :
    case (t.markModels names) = (case t).map (Rule.mapContents (·.markModels names)) := by
  simp only [cases, List.mem_cons, List.not_mem_nil, or_false] at hcase
  rcases hcase with rfl | rfl | rfl | rfl | rfl | rfl | rfl
  · cases h : m.overrides.lookup t.simpleName <;> simp [override?, h, Rule.mapContents]
  · rw [model?, model?, isModel_markModels registered]
    split <;> simp [Rule.mapContents]
  · by_cases h : t.simpleName ∈ wrappers <;>
      rcases g : t.arguments with _ | ⟨content, _ | ⟨_, _⟩⟩ <;>
      simp [wrapper?, h, g, Rule.mapContents]
  · by_cases h : t.simpleName ∈ dates ∧ t.arguments = [] <;> simp [date?, h, Rule.mapContents]
  · by_cases h : t.arguments = [] <;>
      cases g : primitiveExpression? t.simpleName <;> simp [primitive?, h, g, Rule.mapContents]
  · by_cases h : t.simpleName ∈ sequences <;>
      rcases g : t.arguments with _ | ⟨element, _ | ⟨_, _⟩⟩ <;>
      simp [sequence?, h, g, Rule.mapContents]
  · by_cases h : t.simpleName ∈ dictionaries <;>
      rcases g : t.arguments with _ | ⟨key, _ | ⟨value, _ | ⟨_, _⟩⟩⟩ <;>
      simp [dictionary?, h, g, Rule.mapContents]

theorem rule_markModels (t : HostType) :
    m.rule (t.markModels names) = (m.rule t).mapContents (·.markModels names) := by
  have marked : m.cases.findSome? (· (t.markModels names)) =
      (m.cases.findSome? (· t)).map (Rule.mapContents (·.markModels names)) := by
    rw [List.map_findSome?]
    exact findSome?_congr fun case hcase => case_markModels registered hcase t
  rw [rule, rule, marked]
  cases m.cases.findSome? (· t) with
  | none => rfl
  | some r => rfl

theorem map_markModels (t : HostType) : m.map (t.markModels names) = m.map t := by
  induction t using map.induct m with
  | case1 t mapped hrule =>
    rw [map_eq, map_eq m t, rule_markModels registered, hrule, Rule.mapContents]
  | case2 t content hrule ih =>
    rw [map_eq, map_eq m t, rule_markModels registered, hrule, Rule.mapContents]
    exact ih
  | case3 t element hrule ih =>
    rw [map_eq, map_eq m t, rule_markModels registered, hrule, Rule.mapContents]
    simp only [ih]
  | case4 t key value hrule ihKey ihValue =>
    rw [map_eq, map_eq m t, rule_markModels registered, hrule, Rule.mapContents]
    simp only [ihKey, ihValue]
  | case5 t fault hrule =>
    rw [map_eq, map_eq m t, rule_markModels registered, hrule, Rule.mapContents,
      HostType.toNotation_markModels]

end Mapping

end ServiceClient.TypeScript

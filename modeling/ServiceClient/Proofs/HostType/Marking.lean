import Mathlib.Data.List.Forall2
import ServiceClient.Proofs.HostType.Nodes

namespace ServiceClient.HostType

@[simp] theorem isModel_markModels (names : List String) (t : HostType) :
    (t.markModels names).isModel = (t.isModel || names.contains t.simpleName) := by
  cases t
  simp [markModels]

mutual

@[simp] theorem toNotation_markModels (names : List String) :
    ∀ t : HostType, (t.markModels names).toNotation = t.toNotation
  | ⟨name, [], isModel⟩ => by simp [markModels, markAllModels, toNotation]
  | ⟨name, a :: as, isModel⟩ => by
    simp [markModels, markAllModels, toNotation, toNotation_markModels names a,
      moreToNotation_markAllModels names as]

theorem moreToNotation_markAllModels (names : List String) :
    ∀ as : List HostType, moreToNotation (markAllModels names as) = moreToNotation as
  | [] => by simp [markAllModels]
  | a :: as => by
    simp [markAllModels, moreToNotation, toNotation_markModels names a,
      moreToNotation_markAllModels names as]

end

mutual

def withoutMarks : HostType → HostType
  | ⟨name, arguments, _⟩ => ⟨name, allWithoutMarks arguments, false⟩

def allWithoutMarks : List HostType → List HostType
  | [] => []
  | a :: as => a.withoutMarks :: allWithoutMarks as

end

theorem allWithoutMarks_eq_map (as : List HostType) :
    allWithoutMarks as = as.map withoutMarks := by
  induction as with
  | nil => rfl
  | cons a as ih => rw [allWithoutMarks, ih, List.map_cons]

theorem withoutMarks_eq (t : HostType) :
    t.withoutMarks = ⟨t.name, t.arguments.map withoutMarks, false⟩ := by
  rw [← allWithoutMarks_eq_map]
  cases t
  rw [withoutMarks]

/-- A type and what marking makes of it: one that is written the same, and that is a model if it was
one before or its simple name is among the names. -/
structure Marked (names : List String) (t u : HostType) : Prop where
  toNotation_eq : u.toNotation = t.toNotation
  simpleName_eq : u.simpleName = t.simpleName
  isModel_iff : u.isModel = true ↔ t.isModel = true ∨ t.simpleName ∈ names

variable (names : List String) (t : HostType)

theorem marked_markModels : Marked names t (t.markModels names) := by
  constructor
  · exact toNotation_markModels names t
  · exact simpleName_markModels names t
  · simp

theorem withoutMarks_markModels : (t.markModels names).withoutMarks = t.withoutMarks := by
  induction t using inductionOn with
  | step t ih =>
    rw [withoutMarks_eq, withoutMarks_eq t, name_markModels, arguments_markModels, List.map_map]
    congr 1
    exact List.map_congr_left ih

theorem nodes_markModels : (t.markModels names).nodes = t.nodes.map (markModels names) := by
  induction t using inductionOn with
  | step t ih =>
    rw [nodes_eq, nodes_eq t, arguments_markModels, List.map_cons, List.flatMap_map,
      List.map_flatMap]
    congr 1
    exact List.flatMap_congr ih

theorem forall₂_marked : List.Forall₂ (Marked names) t.nodes (t.markModels names).nodes := by
  rw [nodes_markModels, List.forall₂_map_right_iff, List.forall₂_same]
  exact fun u _ => marked_markModels names u

theorem markModels_eq : t.markModels names =
    ⟨t.name, t.arguments.map (markModels names), t.isModel || names.contains t.simpleName⟩ := by
  rw [← markAllModels_eq_map]
  cases t
  rw [markModels]

variable {names} in
theorem markModels_markModels {names' both : List String}
    (union : ∀ name, name ∈ both ↔ name ∈ names' ∨ name ∈ names) :
    (t.markModels names).markModels names' = t.markModels both := by
  induction t using inductionOn with
  | step t ih =>
    have inner : t.arguments.map (markModels names' ∘ markModels names) =
        t.arguments.map (markModels both) := List.map_congr_left ih
    have flag : (t.isModel || names.contains t.simpleName || names'.contains t.simpleName) =
        (t.isModel || both.contains t.simpleName) := by
      rw [Bool.or_assoc, Bool.eq_iff_iff]
      simp [union, or_comm]
    rw [markModels_eq names', markModels_eq both, name_markModels, arguments_markModels,
      isModel_markModels, simpleName_markModels, List.map_map, inner, flag]

end ServiceClient.HostType

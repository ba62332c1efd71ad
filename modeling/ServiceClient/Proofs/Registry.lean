import Mathlib.Data.List.Nodup
import ServiceClient.Proofs.Text.Order
import ServiceClient.Registry

namespace ServiceClient

theorem nodup_eraseDups [BEq α] [LawfulBEq α] (as : List α) : as.eraseDups.Nodup := by
  cases as with
  | nil => simp
  | cons a as =>
    rw [List.eraseDups_cons, List.nodup_cons]
    constructor
    · simp [List.mem_eraseDups]
    · exact nodup_eraseDups _
termination_by as.length
decreasing_by
  have := List.length_filter_le (fun b => !b == a) as
  simp only [List.length_cons]
  omega

namespace Registry

def Same (r r' : Registry) : Prop := ∀ name, name ∈ r.models ↔ name ∈ r'.models

theorem Same.sortedNames {r r' : Registry} (h : r.Same r') : r.sortedNames = r'.sortedNames := by
  apply Text.sort_eq_of_perm
  refine (List.perm_ext_iff_of_nodup (nodup_eraseDups _) (nodup_eraseDups _)).2 fun name => ?_
  rw [List.mem_eraseDups, List.mem_eraseDups, h]

theorem pairwise_sortedNames (r : Registry) : r.sortedNames.Pairwise (· < ·) := by
  have distinct : r.sortedNames.Nodup :=
    (Text.sort_perm _).nodup_iff.2 (nodup_eraseDups r.models)
  refine ((Text.pairwise_sort _).and distinct).imp ?_
  rintro a b ⟨order, differ⟩
  by_contra notLess
  exact differ (String.le_antisymm (Text.inOrder_iff.1 order) (String.not_lt.1 notLess))

theorem exists_sortedNames_insert {r r' : Registry} {name : String} (fresh : name ∉ r.models)
    (more : ∀ other, other ∈ r'.models ↔ other = name ∨ other ∈ r.models) :
    ∃ earlier later,
      r.sortedNames = earlier ++ later ∧ r'.sortedNames = earlier ++ name :: later := by
  have once : (name :: r.models.eraseDups).Nodup := by
    rw [List.nodup_cons, List.mem_eraseDups]
    exact ⟨fresh, nodup_eraseDups _⟩
  have perm : r'.models.eraseDups.Perm (name :: r.models.eraseDups) := by
    rw [List.perm_ext_iff_of_nodup (nodup_eraseDups _) once]
    simp [more]
  rw [sortedNames, sortedNames, Text.sort_eq_of_perm perm]
  exact Text.exists_sort_cons name _

theorem Same.isModel {r r' : Registry} (h : r.Same r') (t : HostType) :
    r.isModel t = r'.isModel t := by
  rw [Registry.isModel, Registry.isModel, Bool.eq_iff_iff]
  simp [h t.simpleName]

end Registry

end ServiceClient

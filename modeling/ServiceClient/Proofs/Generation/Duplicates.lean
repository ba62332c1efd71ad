import Mathlib.Data.List.Nodup
import ServiceClient.Generation

namespace ServiceClient.Generation

theorem duplicatesAfter_eq_nil_iff {severity : Severity} {controller : String}
    {seen : List (String × String)} {names : List String} :
    duplicatesAfter severity controller seen names = [] ↔
      (names.map Text.fold).Nodup ∧ ∀ name ∈ names, seen.lookup (Text.fold name) = none := by
  fun_induction duplicatesAfter severity controller seen names with
  | case1 => simp
  | case2 seen name names first found ih =>
    constructor
    · intro h
      contradiction
    · rintro ⟨_, fresh⟩
      rw [fresh name List.mem_cons_self] at found
      contradiction
  | case3 seen name names missing ih =>
    have fresh : ∀ other, ((Text.fold name, name) :: seen).lookup (Text.fold other) = none ↔
        Text.fold other ≠ Text.fold name ∧ seen.lookup (Text.fold other) = none := by
      intro other
      rw [List.lookup_cons]
      split <;> simp_all
    rw [ih, List.map_cons, List.nodup_cons, List.forall_mem_cons, List.mem_map]
    simp only [fresh]
    grind

theorem duplicates_eq_nil_iff {policy : DuplicatePolicy} {c : Controller} :
    duplicates policy c = [] ↔ (c.exposed.map fun m => Text.fold m.name).Nodup := by
  rw [duplicates, duplicatesAfter_eq_nil_iff, List.map_map]
  have same : ((Text.sortByName Method.name c.exposed).map (Text.fold ∘ Method.name)).Nodup ↔
      (c.exposed.map fun m => Text.fold m.name).Nodup :=
    ((Text.sortByName_perm Method.name c.exposed).map _).nodup_iff
  simpa using same

end ServiceClient.Generation

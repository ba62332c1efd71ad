import ServiceClient.Proofs.Generation.Restriction

namespace ServiceClient

theorem Snapshot.Valid.insert {models : List String} {before after : List Controller}
    {c : Controller} (valid : Snapshot.Valid ⟨models, before ++ after⟩)
    (fresh : ∀ other ∈ before ++ after, other.name ≠ c.name) :
    Snapshot.Valid ⟨models, before ++ c :: after⟩ := by
  have names := valid.controllers
  refine ⟨valid.models, ?_⟩
  rw [List.map_append] at names
  rw [List.map_append, List.map_cons, List.nodup_middle, List.nodup_cons, ← List.map_append]
  refine ⟨fun again => ?_, by rwa [List.map_append]⟩
  obtain ⟨other, hother, same⟩ := List.mem_map.1 again
  exact fresh other hother same

namespace Generation

/-- What a controller adds to a run on a snapshot, where `g` is that run, `alone` the run on the
controller alone, and `g'` the run on the snapshot with the controller. -/
structure Adds (s : Settings) (snapshot : Snapshot) (c : Controller) (g alone g' : Generation) :
    Prop where
  dropped : IsDropped s c → g'.moduleText = g.moduleText
  written : ¬IsDropped s c → ∃ before after,
    before ++ after = inResourceOrder s snapshot ∧
    g.moduleText = textWith s snapshot.models
      (before.flatMap (linesOf s snapshot.models) ++ after.flatMap (linesOf s snapshot.models)) ∧
    g'.moduleText = textWith s snapshot.models
      (before.flatMap (linesOf s snapshot.models) ++ linesOf s snapshot.models c
        ++ after.flatMap (linesOf s snapshot.models))
  single : ¬IsDropped s c →
    alone.moduleText = textWith s snapshot.models (linesOf s snapshot.models c)
  others : g'.diagnostics.filter (fun d => d.controller ≠ c.name) = g.diagnostics
  own : g'.diagnostics.filter (fun d => d.controller = c.name) = alone.diagnostics
  summary : g'.summary = g.summary.plus alone.summary

section Keys

variable {α γ : Type} [DecidableEq γ] {key : α → γ}

theorem filter_ne_key {l r : List α} {a : α} (distinct : ((l ++ a :: r).map key).Nodup) :
    (l ++ a :: r).filter (fun b => key b ≠ key a) = l ++ r := by
  rw [List.map_append, List.map_cons, List.nodup_middle, List.nodup_cons,
    ← List.map_append] at distinct
  have others : (l ++ r).filter (fun b => key b ≠ key a) = l ++ r := by
    refine List.filter_eq_self.2 fun b hb => decide_eq_true fun same => ?_
    exact distinct.1 (same ▸ List.mem_map_of_mem hb)
  rw [List.filter_append, List.filter_cons_of_neg (by simp), ← List.filter_append, others]

end Keys

section Insert

variable {s : Settings} {models : List String} {before after : List Controller} {c : Controller}
  (valid : Snapshot.Valid ⟨models, before ++ c :: after⟩)
include valid

theorem restrict_others :
    Snapshot.restrict (fun other => other.name ≠ c.name) ⟨models, before ++ c :: after⟩ =
      ⟨models, before ++ after⟩ :=
  congrArg (Snapshot.mk models) (filter_ne_key valid.controllers)

theorem restrict_own :
    Snapshot.restrict (fun other => other.name = c.name) ⟨models, before ++ c :: after⟩ =
      ⟨models, [c]⟩ :=
  congrArg (Snapshot.mk models) (filter_eq_singleton valid.controllers (by simp))

theorem inResourceOrder_of_dropped (dropped : IsDropped s c) :
    inResourceOrder s ⟨models, before ++ c :: after⟩ =
      inResourceOrder s ⟨models, before ++ after⟩ := by
  rw [← restrict_others valid, inResourceOrder_restrict]
  refine (List.filter_eq_self.2 fun other hother => ?_).symm
  rw [mem_inResourceOrder] at hother
  rw [decide_eq_true_eq]
  intro same
  obtain rfl : other = c :=
    List.inj_on_of_nodup_map valid.controllers hother.1 (by simp) same
  exact hother.2 dropped

theorem exists_inResourceOrder_insert (stays : ¬IsDropped s c) :
    ∃ earlier later,
      inResourceOrder s ⟨models, before ++ c :: after⟩ = earlier ++ c :: later ∧
      inResourceOrder s ⟨models, before ++ after⟩ = earlier ++ later := by
  have member : c ∈ inResourceOrder s ⟨models, before ++ c :: after⟩ :=
    mem_inResourceOrder.2 ⟨by simp, stays⟩
  obtain ⟨earlier, later, split⟩ := List.append_of_mem member
  have distinct : ((inResourceOrder s ⟨models, before ++ c :: after⟩).map (·.name)).Nodup := by
    rw [((inResourceOrder_perm _ _).map _).nodup_iff, kept]
    exact (nodup_inNameOrder valid).sublist (List.filter_sublist.map _)
  refine ⟨earlier, later, split, ?_⟩
  rw [split] at distinct
  rw [← restrict_others valid, inResourceOrder_restrict, split, filter_ne_key distinct]

omit valid in
theorem inResourceOrder_singleton (stays : ¬IsDropped s c) :
    inResourceOrder s ⟨models, [c]⟩ = [c] := by
  have same : kept s ⟨models, [c]⟩ = [c] := by
    simp [kept, inNameOrder, Text.sortByName, stays]
  rw [inResourceOrder, same, Text.sortByName, List.mergeSort_singleton]

theorem summary_insert :
    (assembled s ⟨models, before ++ c :: after⟩).summary =
      (assembled s ⟨models, before ++ after⟩).summary.plus (assembled s ⟨models, [c]⟩).summary := by
  have own : (fun other : Controller => !decide (other.name ≠ c.name)) =
      fun other => decide (other.name = c.name) := by
    funext other
    simp
  have parts := summary_restrict s ⟨models, before ++ c :: after⟩ fun other => other.name ≠ c.name
  rwa [own, restrict_others valid, restrict_own valid] at parts

theorem adds_assembled :
    Adds s ⟨models, before ++ after⟩ c (assembled s ⟨models, before ++ after⟩)
      (assembled s ⟨models, [c]⟩) (assembled s ⟨models, before ++ c :: after⟩) := by
  constructor
  · intro dropped
    rw [text_assembled, text_assembled, inResourceOrder_of_dropped valid dropped]
  · intro stays
    obtain ⟨earlier, later, whole, rest⟩ := exists_inResourceOrder_insert valid stays
    refine ⟨earlier, later, rest.symm, ?_, ?_⟩
    · rw [text_assembled, rest, List.flatMap_append]
    · rw [text_assembled, whole, List.flatMap_append, List.flatMap_cons, List.append_assoc]
  · intro stays
    rw [text_assembled, inResourceOrder_singleton stays, List.flatMap_singleton]
  · rw [← restrict_others valid, diagnostics_restrict _ _ fun name => name ≠ c.name]
  · rw [← restrict_own valid, diagnostics_restrict _ _ fun name => name = c.name]
  · exact summary_insert valid

end Insert

/-- One controller more makes a run fail only where it failed before, and else adds what a run on
this controller alone says of it, its lines in one place among those of the others. -/
theorem generate_insert {s : Settings} {models : List String} {before after : List Controller}
    {c : Controller} (enabled : s.isEnabled = true)
    (valid : Snapshot.Valid ⟨models, before ++ after⟩)
    (fresh : ∀ other ∈ before ++ after, other.name ≠ c.name) :
    (∃ fault, generate s ⟨models, before ++ after⟩ = .error fault ∧
      generate s ⟨models, before ++ c :: after⟩ = .error fault) ∨
    ∃ g alone g', generate s ⟨models, before ++ after⟩ = .ok g ∧
      generate s ⟨models, [c]⟩ = .ok alone ∧
      generate s ⟨models, before ++ c :: after⟩ = .ok g' ∧
      Adds s ⟨models, before ++ after⟩ c g alone g' := by
  -- The preamble depends on the models, which all three snapshots share.
  have registry (cs : List Controller) :
      Snapshot.registry ⟨models, cs⟩ = ⟨models.eraseDups⟩ := rfl
  simp only [generate_eq, if_pos enabled, registry]
  cases DataService.fault? s.moduleName ⟨models.eraseDups⟩ with
  | some fault => exact .inl ⟨fault, rfl, rfl⟩
  | none => exact .inr ⟨_, _, _, rfl, rfl, rfl, adds_assembled (valid.insert fresh)⟩

theorem generate_insert_tied :
    let roles : Controller :=
      { name := "RoleController", methods := [{ name := "GetRole" }, { name := "getrole" }] }
    let user : Controller := { name := "User", methods := [{ name := "GetAll" }] }
    let users : Controller := { name := "UserController", methods := [
      { name := "Rename" }, { name := "PostUser", parameters := [⟨"user", { name := "User" }⟩] }] }
    let s : Settings := { basePath := "/api" }
    users.resourceName s.controllerSuffix = user.resourceName s.controllerSuffix ∧
      ∃ g alone g', generate s ⟨["User"], [roles, user]⟩ = .ok g ∧
        generate s ⟨["User"], [users]⟩ = .ok alone ∧
        generate s ⟨["User"], [roles, users, user]⟩ = .ok g' ∧
        Adds s ⟨["User"], [roles, user]⟩ users g alone g' := by
  intro roles user users s
  have valid : Snapshot.Valid ⟨["User"], [roles] ++ [user]⟩ := ⟨by decide, by decide⟩
  have fresh : ∀ other ∈ [roles] ++ [user], other.name ≠ users.name := by decide
  refine ⟨by decide +kernel, ?_⟩
  obtain ⟨fault, failed, _⟩ | added := generate_insert (s := s) rfl valid fresh
  · rw [generate_of_no_fault rfl (by decide +kernel)] at failed
    contradiction
  · exact added

end Generation

end ServiceClient

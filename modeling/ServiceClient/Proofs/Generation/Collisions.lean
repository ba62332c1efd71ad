import ServiceClient.Proofs.Generation.Isolation
import ServiceClient.Proofs.Generation.Policies

namespace ServiceClient

def Controller.namesFolding (c : Controller) (folded : String) : List String :=
  Text.sort ((c.exposed.map (·.name)).filter (Text.fold · = folded))

def Controller.foldedNames (c : Controller) : List String :=
  (c.exposed.map fun method => Text.fold method.name).eraseDups

namespace Generation

/-- Says of each name but the first that it collides with the first. -/
def collisions (severity : Severity) (controller : String) : List String → List Diagnostic
  | [] => []
  | first :: others => others.map fun name => duplicateDiagnostic severity controller name first

section Groups

variable {α β γ : Type} [DecidableEq γ] {key : α → γ}

theorem flatMap_filter_perm {keys : List γ} (distinct : keys.Nodup) {as : List α}
    (all : ∀ a ∈ as, key a ∈ keys) : (keys.flatMap fun k => as.filter (key · = k)).Perm as := by
  induction keys generalizing as with
  | nil =>
    obtain rfl : as = [] := List.eq_nil_iff_forall_not_mem.2 fun a ha => by simpa using all a ha
    exact .nil
  | cons k keys ih =>
    rw [List.nodup_cons] at distinct
    -- The other groups are those of the items that are not in the first one.
    have others : (keys.flatMap fun k' => as.filter (key · = k')) =
        keys.flatMap fun k' => (as.filter fun a => !decide (key a = k)).filter (key · = k') := by
      apply List.flatMap_congr
      intro k' hk'
      have differ : k' ≠ k := fun same => distinct.1 (same ▸ hk')
      rw [List.filter_filter]
      apply List.filter_congr
      intro a _
      by_cases h : key a = k' <;> simp [h, differ]
    rw [List.flatMap_cons, others]
    apply List.Perm.trans _ (List.filter_append_perm (key · = k) as)
    apply List.Perm.append_left
    apply ih distinct.2
    intro a ha
    rw [List.mem_filter] at ha
    have differ : key a ≠ k := by simpa using ha.2
    exact (List.mem_cons.1 (all a ha.1)).resolve_left differ

omit [DecidableEq γ] in
theorem length_flatMap_of_succ {f : γ → List α} {g : γ → List β} {keys : List γ}
    (one : ∀ k ∈ keys, (f k).length + 1 = (g k).length) :
    (keys.flatMap f).length + keys.length = (keys.flatMap g).length := by
  induction keys with
  | nil => rfl
  | cons k keys ih =>
    rw [List.forall_mem_cons] at one
    have rest := ih one.2
    simp only [List.flatMap_cons, List.length_append, List.length_cons]
    omega

end Groups

def foldedMethod (d : Diagnostic) : String := Text.fold (d.method.getD "")

@[simp] theorem foldedMethod_duplicateDiagnostic (severity : Severity)
    (controller name first : String) :
    foldedMethod (duplicateDiagnostic severity controller name first) = Text.fold name := rfl

/-- Of the names with one folded name, those after the first are reported; if one was seen before,
it is the first. -/
theorem filter_duplicatesAfter (severity : Severity) (controller folded : String)
    (seen : List (String × String)) (names : List String) :
    (duplicatesAfter severity controller seen names).filter (foldedMethod · = folded) =
      collisions severity controller
        ((seen.lookup folded).toList ++ names.filter (Text.fold · = folded)) := by
  fun_induction duplicatesAfter severity controller seen names with
  | case1 seen => cases seen.lookup folded <;> rfl
  | case2 seen name names first found ih =>
    by_cases same : Text.fold name = folded
    · subst same
      simp [ih, found, collisions]
    · simp [ih, same]
  | case3 seen name names missing ih =>
    rw [ih, List.lookup_cons]
    by_cases same : Text.fold name = folded
    · subst same
      simp [missing]
    · simp [same, beq_false_of_ne (Ne.symm same)]

theorem filter_duplicates (policy : DuplicatePolicy) (c : Controller) (folded : String) :
    (duplicates policy c).filter (foldedMethod · = folded) =
      collisions (duplicateSeverity policy) c.name (c.namesFolding folded) := by
  rw [duplicates, filter_duplicatesAfter, Text.map_sortByName_self, Text.filter_sortByName,
    Text.sortByName_of_fold_eq, Controller.namesFolding]
  · rfl
  · intro name hname
    simpa using (List.mem_filter.1 hname).2

theorem exists_name_of_mem_duplicatesAfter {severity : Severity} {controller : String}
    {seen : List (String × String)} {names : List String} {d : Diagnostic}
    (h : d ∈ duplicatesAfter severity controller seen names) :
    ∃ name ∈ names, d.method = some name := by
  fun_induction duplicatesAfter severity controller seen names with
  | case1 => contradiction
  | case2 seen name names first _ ih =>
    rcases List.mem_cons.1 h with rfl | h
    · exact ⟨name, List.mem_cons_self, rfl⟩
    · exact (ih h).imp fun _ => And.imp_left (List.mem_cons_of_mem _)
  | case3 seen name names _ ih =>
    exact (ih h).imp fun _ => And.imp_left (List.mem_cons_of_mem _)

section Controller

variable (policy : DuplicatePolicy) (c : Controller)

theorem mem_foldedNames {c : Controller} {name : String} (h : name ∈ c.exposed.map (·.name)) :
    Text.fold name ∈ c.foldedNames := by
  rw [Controller.foldedNames, List.mem_eraseDups]
  obtain ⟨method, hmethod, rfl⟩ := List.mem_map.1 h
  exact List.mem_map_of_mem hmethod

theorem foldedMethod_of_mem_duplicates {d : Diagnostic} (h : d ∈ duplicates policy c) :
    foldedMethod d ∈ c.foldedNames := by
  obtain ⟨name, hname, method⟩ := exists_name_of_mem_duplicatesAfter h
  rw [((Text.sortByName_perm Method.name c.exposed).map _).mem_iff] at hname
  rw [foldedMethod, method]
  exact mem_foldedNames hname

theorem duplicates_perm :
    (duplicates policy c).Perm (c.foldedNames.flatMap fun folded =>
      collisions (duplicateSeverity policy) c.name (c.namesFolding folded)) := by
  have groups := flatMap_filter_perm (nodup_eraseDups _) fun _ =>
    foldedMethod_of_mem_duplicates policy c
  simp only [filter_duplicates] at groups
  exact groups.symm

theorem namesFolding_perm :
    (c.foldedNames.flatMap c.namesFolding).Perm (c.exposed.map (·.name)) := by
  apply List.Perm.trans (List.Perm.flatMap_left _ fun folded _ => Text.sort_perm _)
  exact flatMap_filter_perm (nodup_eraseDups _) fun _ => mem_foldedNames

theorem namesFolding_ne_nil {folded : String} (h : folded ∈ c.foldedNames) :
    c.namesFolding folded ≠ [] := by
  simp only [Controller.foldedNames, List.mem_eraseDups, List.mem_map] at h
  obtain ⟨method, hmethod, same⟩ := h
  apply List.ne_nil_of_mem (a := method.name)
  rw [Controller.namesFolding, (Text.sort_perm _).mem_iff, List.mem_filter, decide_eq_true_eq]
  exact ⟨List.mem_map_of_mem hmethod, same⟩

theorem length_collisions {severity : Severity} {controller : String} {names : List String}
    (h : names ≠ []) : (collisions severity controller names).length + 1 = names.length := by
  cases names with
  | nil => contradiction
  | cons first others => simp [collisions]

theorem length_duplicates :
    (duplicates policy c).length + c.foldedNames.length = c.exposed.length := by
  have grouped : (c.foldedNames.flatMap c.namesFolding).length = c.exposed.length := by
    rw [(namesFolding_perm c).length_eq, List.length_map]
  rw [(duplicates_perm policy c).length_eq, ← grouped]
  apply length_flatMap_of_succ
  intro folded h
  exact length_collisions (namesFolding_ne_nil c h)

end Controller

section Run

variable {s : Settings} {snapshot : Snapshot} {c : Controller}

def duplicatesReportedOf (controller : String) (g : Generation) : List Diagnostic :=
  (duplicatesReported g).filter (·.controller = controller)

theorem duplicatesReportedOf_assembled (valid : snapshot.Valid) (hc : c ∈ snapshot.controllers) :
    duplicatesReportedOf c.name (assembled s snapshot) = duplicates s.duplicatePolicy c := by
  have member : c ∈ inNameOrder snapshot := (inNameOrder_perm snapshot).mem_iff.2 hc
  have own (c : Controller) (d : Diagnostic) (hd : d ∈ duplicates s.duplicatePolicy c) :
      d.controller = c.name := (mem_duplicates hd).2.2
  rw [duplicatesReportedOf, duplicatesReported_assembled,
    filter_flatMap_of_key own (· = c.name), filter_eq_singleton (nodup_inNameOrder valid) member,
    List.flatMap_singleton]

theorem nodup_inResourceOrder (valid : snapshot.Valid) : (inResourceOrder s snapshot).Nodup := by
  rw [(inResourceOrder_perm s snapshot).nodup_iff]
  exact (nodup_inNameOrder valid).of_map.sublist List.filter_sublist

/-- A run reports each name of a group but the first, and nothing more for its name. It writes a
block of lines for every controller, except that a strict run leaves out those with such a
report. -/
theorem generate_collisions {g : Generation} (enabled : s.isEnabled = true)
    (valid : snapshot.Valid) (h : generate s snapshot = .ok g) :
    (∀ c ∈ snapshot.controllers,
      (duplicatesReportedOf c.name g).Perm (c.foldedNames.flatMap fun folded =>
        collisions (duplicateSeverity s.duplicatePolicy) c.name (c.namesFolding folded)) ∧
      (duplicatesReportedOf c.name g).length + c.foldedNames.length = c.exposed.length) ∧
    ∃ shown : List Controller, shown.Nodup ∧
      (∀ c, c ∈ shown ↔ c ∈ snapshot.controllers ∧
        ¬(s.duplicatePolicy = .strict ∧ 0 < (duplicatesReportedOf c.name g).length)) ∧
      g.moduleText = textWith s snapshot.models (shown.flatMap (linesOf s snapshot.models)) ∧
      ∀ c ∈ shown, ∃ methods, methods.Subperm c.exposed ∧
        IsBlock (mapping s snapshot) s c methods (linesOf s snapshot.models c) := by
  obtain rfl := eq_assembled_of_generate enabled h
  refine ⟨fun c hc => ?_, inResourceOrder s snapshot, nodup_inResourceOrder valid, fun c => ?_,
    text_assembled s snapshot, fun c _ => ?_⟩
  · rw [duplicatesReportedOf_assembled valid hc]
    exact ⟨duplicates_perm _ c, length_duplicates _ c⟩
  · rw [mem_inResourceOrder]
    refine and_congr_right fun hc => not_congr ?_
    rw [duplicatesReportedOf_assembled valid hc, isDropped_iff, List.length_pos_iff, and_comm]
  · have sorted := Text.sortByName_perm Method.name (emittedMethods (mapping s snapshot) s c)
    exact ⟨_, sorted.subperm.trans List.filter_sublist.subperm,
      isBlock_groupingOf (mapping s snapshot) s c⟩

theorem generate_collisions_strict :
    let users : Controller := { name := "UserController", methods := [
      { name := "getall" }, { name := "GetAll" }, { name := "PostUser" }, { name := "getAll" }] }
    let roles : Controller := { name := "RoleController", methods := [{ name := "GetRole" }] }
    let s : Settings := { basePath := "/api" }
    let snapshot : Snapshot := ⟨["User"], [users, roles]⟩
    ∃ g, generate s snapshot = .ok g ∧
      (duplicatesReportedOf users.name g).Perm
        [duplicateDiagnostic .error users.name "getAll" "GetAll",
          duplicateDiagnostic .error users.name "getall" "GetAll"] ∧
      ∃ shown : List Controller, users ∉ shown ∧ roles ∈ shown ∧
        g.moduleText = textWith s snapshot.models (shown.flatMap (linesOf s snapshot.models)) ∧
        (linesOf s snapshot.models roles).head? = some "\trole = \x7b" := by
  intro users roles s snapshot
  have valid : snapshot.Valid := ⟨by decide, by decide⟩
  have returns : generate s snapshot = .ok (assembled s snapshot) :=
    generate_of_no_fault rfl (by decide +kernel)
  obtain ⟨reported, shown, _, mem, text, block⟩ := generate_collisions rfl valid returns
  obtain ⟨perm, _⟩ := reported users List.mem_cons_self
  obtain ⟨_, single⟩ := reported roles (List.mem_cons_of_mem _ List.mem_cons_self)
  have groups : users.foldedNames = ["getall", "postuser"] := by decide +kernel
  have getAll : users.namesFolding "getall" = ["GetAll", "getAll", "getall"] :=
    Text.sort_eq_of_pairwise (by decide +kernel) (by decide +kernel)
  have postUser : users.namesFolding "postuser" = ["PostUser"] :=
    Text.sort_eq_of_pairwise (by decide +kernel) (by decide +kernel)
  rw [groups, List.flatMap_cons, List.flatMap_singleton, getAll, postUser] at perm
  have one : roles.foldedNames.length = 1 := by decide +kernel
  rw [one] at single
  have written : roles ∈ shown := by
    rw [mem]
    refine ⟨List.mem_cons_of_mem _ List.mem_cons_self, fun h => ?_⟩
    rw [Nat.add_right_cancel single] at h
    exact absurd h.2 (Nat.lt_irrefl 0)
  have member : "\t" ++ Naming.camelize (roles.resourceName s.controllerSuffix) ++ " = \x7b" =
      "\trole = \x7b" := by decide +kernel
  refine ⟨_, returns, perm, shown, ?_, written, text, ?_⟩
  · rw [mem, perm.length_eq]
    exact fun h => h.2 ⟨rfl, by decide⟩
  · obtain ⟨_, _, lines, _, opened⟩ := block roles written
    rw [opened, member]
    rfl

end Run

end Generation

end ServiceClient

import ServiceClient.Proofs.Generation.Method
import ServiceClient.Proofs.Pointwise
import ServiceClient.Proofs.Snapshot.Valid

namespace ServiceClient

structure Controller.Reordered (c c' : Controller) : Prop where
  name : c.name = c'.name
  methods : c.methods.Perm c'.methods

structure Snapshot.Reordered (snapshot snapshot' : Snapshot) : Prop where
  models : snapshot.models.Perm snapshot'.models
  controllers : ∃ cs, List.Forall₂ Controller.Reordered snapshot.controllers cs ∧
    cs.Perm snapshot'.controllers

structure Generation.SameUpToOrder (g g' : Generation) : Prop where
  moduleText : g.moduleText = g'.moduleText
  outputPath : g.outputPath = g'.outputPath
  diagnostics : g.diagnostics.Perm g'.diagnostics
  summary : g.summary = g'.summary
  modules : g.modules = g'.modules
  written : g.written = g'.written

def Controller.SingleNames (c : Controller) : Prop := (c.exposed.map (·.name)).Nodup

namespace Controller.Reordered

variable {c c' : Controller}

theorem exposed (h : c.Reordered c') : c.exposed.Perm c'.exposed := by
  simp only [Controller.exposed, h.name]
  exact h.methods.filter _

theorem resourceName (h : c.Reordered c') (suffix : String) :
    c.resourceName suffix = c'.resourceName suffix := by
  simp only [Controller.resourceName, h.name]

theorem duplicates (h : c.Reordered c') (policy : DuplicatePolicy) :
    Generation.duplicates policy c = Generation.duplicates policy c' := by
  rw [Generation.duplicates, Generation.duplicates, h.name,
    Text.map_sortByName_eq_of_perm h.exposed]

theorem isDropped (h : c.Reordered c') (s : Settings) :
    Generation.IsDropped s c ↔ Generation.IsDropped s c' := by
  rw [Generation.IsDropped, Generation.IsDropped, (h.exposed.map _).nodup_iff]

end Controller.Reordered

namespace Generation

open TypeScript

theorem methodOutcome_congr {m m' : Mapping} (h : m.map = m'.map) :
    methodOutcome m = methodOutcome m' := by
  funext controller resource method
  simp only [methodOutcome, plainEntry, h]

theorem methodOutcomes_perm {m m' : Mapping} {c c' : Controller} (maps : m.map = m'.map)
    (h : c.Reordered c') (s : Settings) :
    (methodOutcomes m s c).Perm (methodOutcomes m' s c') := by
  rw [methodOutcomes, methodOutcomes, methodOutcome_congr maps, h.name, h.resourceName]
  exact h.exposed.map _

theorem diagnosticsOf_perm {m m' : Mapping} {c c' : Controller} (maps : m.map = m'.map)
    (h : c.Reordered c') (s : Settings) : (diagnosticsOf m s c).Perm (diagnosticsOf m' s c') := by
  rw [diagnosticsOf, diagnosticsOf, h.duplicates]
  refine List.Perm.append_left _ ?_
  simp only [h.isDropped]
  split
  · exact .refl _
  · exact (methodOutcomes_perm maps h s).flatMap_right _

theorem entries_perm {m m' : Mapping} {c c' : Controller} (maps : m.map = m'.map)
    (h : c.Reordered c') (s : Settings) :
    (groupingOf m s c).entries.Perm (groupingOf m' s c').entries :=
  (methodOutcomes_perm maps h s).filterMap _

theorem nodup_of_not_isDropped {s : Settings} {c : Controller}
    (single : s.duplicatePolicy = .strict ∨ c.SingleNames) (h : ¬IsDropped s c) :
    c.SingleNames := by
  rcases single with strict | single
  · have folded := nodup_of_strict strict h
    have image : (c.exposed.map (·.name)).map Text.fold =
        c.exposed.map fun m => Text.fold m.name := by
      rw [List.map_map]
      rfl
    rw [← image] at folded
    exact folded.of_map
  · exact single

variable {s : Settings} {snapshot snapshot' : Snapshot}

theorem registry_same (h : snapshot.models.Perm snapshot'.models) :
    snapshot.registry.Same snapshot'.registry := by
  intro name
  simp only [Snapshot.registry, List.mem_eraseDups, h.mem_iff]

theorem map_mapping_eq (h : snapshot.models.Perm snapshot'.models) :
    (mapping s snapshot).map = (mapping s snapshot').map := by
  funext t
  have registry : (mapping s snapshot).registry.Same (mapping s snapshot').registry :=
    registry_same h
  exact Mapping.map_congr registry rfl t

theorem inNameOrder_reordered (valid : snapshot.Valid) (h : snapshot.Reordered snapshot') :
    List.Forall₂ Controller.Reordered (inNameOrder snapshot) (inNameOrder snapshot') := by
  obtain ⟨cs, related, perm⟩ := h.controllers
  have names : snapshot.controllers.map (·.name) = cs.map (·.name) :=
    Pointwise.map_eq related fun _ _ r => r.name
  have sorted : inNameOrder snapshot' = Text.sortByName Controller.name cs := by
    refine (Text.sortByName_eq_of_perm perm ?_).symm
    rw [← names]
    exact valid.controllers
  rw [sorted]
  exact Text.forall₂_sortByName related fun _ _ r => r.name

theorem kept_reordered (valid : snapshot.Valid) (h : snapshot.Reordered snapshot') :
    List.Forall₂ Controller.Reordered (kept s snapshot) (kept s snapshot') := by
  refine List.rel_filter ?_ (inNameOrder_reordered valid h)
  intro c c' r
  simp [r.isDropped s]

structure SameEntries (g g' : Grouping) : Prop where
  name : g.resourceName = g'.resourceName
  entries : g.entries.Perm g'.entries
  distinct : (g.entries.map (·.sourceName)).Nodup

theorem SameEntries.lines {g g' : Grouping} (h : SameEntries g g') : g.lines = g'.lines := by
  rw [Grouping.lines, Grouping.lines, Grouping.memberName, Grouping.memberName, h.name,
    Text.sortByName_eq_of_perm h.entries h.distinct]

theorem groupings_sameEntries (valid : snapshot.Valid) (h : snapshot.Reordered snapshot')
    (single : s.duplicatePolicy = .strict ∨ ∀ c ∈ snapshot.controllers, c.SingleNames) :
    List.Forall₂ SameEntries (groupings s snapshot) (groupings s snapshot') := by
  have distinct : ∀ c ∈ kept s snapshot, c.SingleNames := by
    intro c hc
    obtain ⟨hc, stays⟩ := List.mem_filter.1 hc
    have member : c ∈ snapshot.controllers := (Text.sortByName_perm _ _).mem_iff.1 hc
    exact nodup_of_not_isDropped (single.imp_right fun all => all c member) (by simpa using stays)
  rw [groupings, groupings, List.forall₂_map_left_iff, List.forall₂_map_right_iff]
  refine ((List.forall₂_and_left _ _).2 ⟨distinct, kept_reordered valid h⟩).imp ?_
  rintro c c' ⟨names, r⟩
  exact ⟨r.resourceName _, entries_perm (map_mapping_eq h.models) r s,
    names.sublist (sourceNames_sublist _ s c)⟩

theorem textOf_eq (registry : snapshot.registry.Same snapshot'.registry)
    {gs gs' : List Grouping} (h : List.Forall₂ SameEntries gs gs') :
    textOf s snapshot.registry gs = textOf s snapshot'.registry gs' := by
  have sorted := Text.forall₂_sortByName h fun _ _ r => r.name
  rw [textOf, textOf, DataService.lines, DataService.lines, registry.sortedNames]
  simp only [List.flatMap_def, Pointwise.map_eq sorted fun _ _ r => r.lines]

theorem methodCount_eq (h : snapshot.Reordered snapshot') :
    snapshot.methodCount = snapshot'.methodCount := by
  obtain ⟨cs, related, perm⟩ := h.controllers
  have moved := Pointwise.flatMap_perm related fun _ _ r => r.exposed
  exact (moved.trans (perm.flatMap_right _)).length_eq

theorem assembled_sameUpToOrder (valid : snapshot.Valid) (h : snapshot.Reordered snapshot')
    (single : s.duplicatePolicy = .strict ∨ ∀ c ∈ snapshot.controllers, c.SingleNames) :
    (assembled s snapshot).SameUpToOrder (assembled s snapshot') := by
  have same := groupings_sameEntries valid h single
  have controllers : snapshot.controllers.length = snapshot'.controllers.length := by
    obtain ⟨cs, related, perm⟩ := h.controllers
    rw [related.length_eq, perm.length_eq]
  have emitted : ((groupings s snapshot).flatMap (·.entries)).length
      = ((groupings s snapshot').flatMap (·.entries)).length :=
    (Pointwise.flatMap_perm same fun _ _ r => r.entries).length_eq
  constructor
  · have text : textOf s snapshot.registry (groupings s snapshot)
        = textOf s snapshot'.registry (groupings s snapshot') :=
      textOf_eq (registry_same h.models) same
    simpa only [assembled] using text
  · rfl
  · exact Pointwise.flatMap_perm (inNameOrder_reordered valid h) fun _ _ r =>
      diagnosticsOf_perm (map_mapping_eq h.models) r s
  · simp only [assembled, controllers, methodCount_eq h, emitted]
  · rfl
  · rfl

/-- Snapshots that differ in their order alone fail alike or give results that differ in the order
of the diagnostics alone. -/
theorem generate_reordered (valid : snapshot.Valid) (h : snapshot.Reordered snapshot')
    (single : s.duplicatePolicy = .strict ∨ ∀ c ∈ snapshot.controllers, c.SingleNames) :
    (∃ fault, generate s snapshot = .error fault ∧ generate s snapshot' = .error fault) ∨
      ∃ g g', generate s snapshot = .ok g ∧ generate s snapshot' = .ok g' ∧ g.SameUpToOrder g' := by
  have fault : DataService.fault? s.moduleName snapshot.registry
      = DataService.fault? s.moduleName snapshot'.registry := by
    rw [DataService.fault?, DataService.fault?, (registry_same h.models).sortedNames]
  rw [generate_eq, generate_eq, fault]
  cases s.isEnabled with
  | false => exact .inr ⟨_, _, rfl, rfl, ⟨rfl, rfl, .refl _, rfl, rfl, rfl⟩⟩
  | true =>
    cases DataService.fault? s.moduleName snapshot'.registry with
    | some fault => exact .inl ⟨fault, rfl, rfl⟩
    | none => exact .inr ⟨_, _, rfl, rfl, assembled_sameUpToOrder valid h single⟩

theorem generate_reordered_lenient :
    let users : Controller :=
      { name := "UserController", methods := [{ name := "GetAll" }, { name := "getall" }] }
    let users' : Controller := { users with methods := users.methods.reverse }
    let roles : Controller := { name := "RoleController", methods := [{ name := "GetRole" }] }
    let s : Settings := { basePath := "/api", duplicatePolicy := .lenient }
    let snapshot : Snapshot := ⟨["User", "Role"], [users, roles]⟩
    let snapshot' : Snapshot := ⟨["Role", "User"], [roles, users']⟩
    (∃ fault, generate s snapshot = .error fault ∧ generate s snapshot' = .error fault) ∨
      ∃ g g', generate s snapshot = .ok g ∧ generate s snapshot' = .ok g' ∧ g.SameUpToOrder g' := by
  intro users users' roles s snapshot snapshot'
  have valid : snapshot.Valid := ⟨by decide, by decide⟩
  have reordered : snapshot.Reordered snapshot' :=
    ⟨.swap _ _ _, [users', roles],
      .cons ⟨rfl, (List.reverse_perm _).symm⟩ (.cons ⟨rfl, .refl _⟩ .nil), .swap _ _ _⟩
  have single : ∀ c ∈ snapshot.controllers, c.SingleNames := by
    rintro c (_ | ⟨_, _ | ⟨_, ⟨⟩⟩⟩)
    · exact (by decide : (users.exposed.map (·.name)).Nodup)
    · exact (by decide : (roles.exposed.map (·.name)).Nodup)
  exact generate_reordered valid reordered (.inr single)

end Generation

end ServiceClient

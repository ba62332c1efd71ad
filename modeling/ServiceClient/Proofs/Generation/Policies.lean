import ServiceClient.Proofs.Generation.Restriction

namespace ServiceClient

def Settings.withPolicy (s : Settings) (policy : DuplicatePolicy) : Settings :=
  { s with duplicatePolicy := policy }

def Diagnostic.withSeverity (severity : Severity) (d : Diagnostic) : Diagnostic :=
  { d with severity }

def Snapshot.withoutCollisions (snapshot : Snapshot) : Snapshot :=
  snapshot.restrict fun c => (c.exposed.map fun m => Text.fold m.name).Nodup

namespace Generation

variable {m : TypeScript.Mapping} {s : Settings} {c : Controller}

def duplicatesReported (g : Generation) : List Diagnostic :=
  g.diagnostics.filter (·.kind = .duplicateMethodName)

theorem isDropped_strict_iff :
    IsDropped (s.withPolicy .strict) c ↔ ¬(c.exposed.map fun m => Text.fold m.name).Nodup :=
  and_iff_right rfl

theorem duplicatesAfter_withSeverity (severity severity' : Severity) (controller : String)
    (seen : List (String × String)) (names : List String) :
    (duplicatesAfter severity controller seen names).map (·.withSeverity severity') =
      duplicatesAfter severity' controller seen names := by
  fun_induction duplicatesAfter severity controller seen names with
  | case1 => rfl
  | case2 seen name names first found ih =>
    rw [List.map_cons, ih, duplicatesAfter, found]
    rfl
  | case3 seen name names missing ih => rw [ih, duplicatesAfter, missing]

theorem duplicates_withSeverity (policy policy' : DuplicatePolicy) (c : Controller) :
    (duplicates policy c).map (·.withSeverity (duplicateSeverity policy')) =
      duplicates policy' c :=
  duplicatesAfter_withSeverity ..

theorem filter_diagnosticsOf :
    (diagnosticsOf m s c).filter (·.kind = .duplicateMethodName) =
      duplicates s.duplicatePolicy c := by
  have found : (duplicates s.duplicatePolicy c).filter (·.kind = .duplicateMethodName) =
      duplicates s.duplicatePolicy c :=
    List.filter_eq_self.2 fun d hd => decide_eq_true (mem_duplicates hd).1
  rw [diagnosticsOf, List.filter_append, found, List.append_right_eq_self, List.filter_eq_nil_iff]
  intro d hd
  split at hd
  · contradiction
  · obtain ⟨outcome, houtcome, hd⟩ := List.mem_flatMap.1 hd
    obtain ⟨method, _, rfl⟩ := List.mem_map.1 houtcome
    simpa using (mem_diagnostics_methodOutcome hd).2.1

theorem duplicatesReported_assembled (s : Settings) (snapshot : Snapshot) :
    duplicatesReported (assembled s snapshot) =
      (inNameOrder snapshot).flatMap (duplicates s.duplicatePolicy) := by
  rw [duplicatesReported, assembled, List.filter_flatMap]
  simp only [filter_diagnosticsOf]

variable (s) (snapshot : Snapshot)

theorem kept_strict :
    kept (s.withPolicy .strict) snapshot = inNameOrder snapshot.withoutCollisions := by
  rw [kept, Snapshot.withoutCollisions, inNameOrder_restrict]
  refine List.filter_congr fun c _ => ?_
  simp [isDropped_strict_iff]

theorem nodup_of_mem_withoutCollisions {c : Controller}
    (hc : c ∈ inNameOrder snapshot.withoutCollisions) :
    (c.exposed.map fun m => Text.fold m.name).Nodup := by
  rw [Snapshot.withoutCollisions, inNameOrder_restrict, List.mem_filter] at hc
  exact of_decide_eq_true hc.2

theorem kept_withoutCollisions :
    kept s snapshot.withoutCollisions = inNameOrder snapshot.withoutCollisions := by
  refine List.filter_eq_self.2 fun c hc => decide_eq_true ?_
  exact not_isDropped_of_nodup (nodup_of_mem_withoutCollisions snapshot hc)

theorem groupings_withoutCollisions (policy : DuplicatePolicy) :
    groupings (s.withPolicy policy) snapshot.withoutCollisions =
      groupings s snapshot.withoutCollisions := by
  rw [groupings, groupings, kept_withoutCollisions, kept_withoutCollisions]
  rfl

theorem assembled_withoutCollisions (policy : DuplicatePolicy) :
    assembled (s.withPolicy policy) snapshot.withoutCollisions =
      assembled s snapshot.withoutCollisions := by
  have reported : (inNameOrder snapshot.withoutCollisions).flatMap
      (diagnosticsOf (mapping s snapshot.withoutCollisions) (s.withPolicy policy)) =
      (inNameOrder snapshot.withoutCollisions).flatMap
        (diagnosticsOf (mapping s snapshot.withoutCollisions) s) := by
    refine List.flatMap_congr fun c hc => ?_
    have distinct := nodup_of_mem_withoutCollisions snapshot hc
    rw [diagnosticsOf_of_nodup distinct, diagnosticsOf_of_nodup distinct]
    rfl
  have maps : mapping (s.withPolicy policy) snapshot.withoutCollisions =
      mapping s snapshot.withoutCollisions := rfl
  rw [assembled, assembled, groupings_withoutCollisions, maps, reported]
  rfl

theorem text_strict :
    (assembled (s.withPolicy .strict) snapshot).moduleText =
      (assembled s snapshot.withoutCollisions).moduleText := by
  have written : groupings (s.withPolicy .strict) snapshot =
      groupings s snapshot.withoutCollisions := by
    rw [groupings, kept_strict, groupings, kept_withoutCollisions]
    rfl
  rw [assembled, assembled, written]
  rfl

/-- How runs of the two policies on a snapshot, `strict` and `lenient`, and a run on its controllers
without duplicate names agree. -/
structure Agree (strict lenient distinct : Generation) : Prop where
  text : strict.moduleText = distinct.moduleText
  errors : ∀ d ∈ duplicatesReported strict, d.severity = .error
  warnings : (duplicatesReported strict).map (·.withSeverity .warning) = duplicatesReported lenient

theorem agree_assembled :
    Agree (assembled (s.withPolicy .strict) snapshot) (assembled (s.withPolicy .lenient) snapshot)
      (assembled s snapshot.withoutCollisions) := by
  constructor
  · exact text_strict s snapshot
  · intro d hd
    rw [duplicatesReported_assembled] at hd
    obtain ⟨c, _, hd⟩ := List.mem_flatMap.1 hd
    exact (mem_duplicates hd).2.1
  · rw [duplicatesReported_assembled, duplicatesReported_assembled, List.map_flatMap]
    exact congrArg (List.flatMap · _) (funext (duplicates_withSeverity .strict .lenient))

/-- Runs of the two policies fail together. Else they agree in all but the controllers with
duplicate names, and in the duplicates themselves up to their severity. -/
theorem generate_policies :
    (∃ fault, ∀ policy, generate (s.withPolicy policy) snapshot = .error fault ∧
      generate (s.withPolicy policy) snapshot.withoutCollisions = .error fault) ∨
    ∃ strict lenient distinct,
      generate (s.withPolicy .strict) snapshot = .ok strict ∧
      generate (s.withPolicy .lenient) snapshot = .ok lenient ∧
      (∀ policy, generate (s.withPolicy policy) snapshot.withoutCollisions = .ok distinct) ∧
      Agree strict lenient distinct := by
  have enabled (policy : DuplicatePolicy) : (s.withPolicy policy).isEnabled = s.isEnabled := rfl
  have name (policy : DuplicatePolicy) : (s.withPolicy policy).moduleName = s.moduleName := rfl
  have registry : snapshot.withoutCollisions.registry = snapshot.registry := rfl
  simp only [generate_eq, enabled, name, registry]
  cases s.isEnabled with
  | false =>
    refine .inr ⟨_, _, _, rfl, rfl, fun policy => rfl, rfl, ?_, rfl⟩
    simp [duplicatesReported]
  | true =>
    cases DataService.fault? s.moduleName snapshot.registry with
    | some fault => exact .inl ⟨fault, fun policy => ⟨rfl, rfl⟩⟩
    | none =>
      refine .inr ⟨_, _, _, rfl, rfl, fun policy => ?_, agree_assembled s snapshot⟩
      exact congrArg Except.ok (assembled_withoutCollisions s snapshot policy)

end Generation

end ServiceClient

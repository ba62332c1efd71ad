import ServiceClient.Proofs.Generation.Congruence
import ServiceClient.Proofs.Generation.Conservation

namespace ServiceClient

inductive WithoutHidden (controller : String) : List Method → List Method → Prop
  | nil : WithoutHidden controller [] []
  | keep {methods methods' : List Method} (method : Method) :
    WithoutHidden controller methods methods' →
      WithoutHidden controller (method :: methods) (method :: methods')
  | delete {method : Method} {methods methods' : List Method} :
    method.isExposedBy controller = false → WithoutHidden controller methods methods' →
      WithoutHidden controller (method :: methods) methods'

theorem WithoutHidden.filter_eq {controller : String} {methods methods' : List Method}
    (h : WithoutHidden controller methods methods') :
    methods.filter (·.isExposedBy controller) = methods'.filter (·.isExposedBy controller) := by
  induction h with
  | nil => rfl
  | keep method _ ih => rw [List.filter_cons, List.filter_cons, ih]
  | delete hidden _ ih => rw [List.filter_cons, hidden, if_neg Bool.false_ne_true, ih]

structure Controller.WithoutHidden (c c' : Controller) : Prop where
  name : c.name = c'.name
  methods : ServiceClient.WithoutHidden c.name c.methods c'.methods

structure Snapshot.WithoutHidden (snapshot snapshot' : Snapshot) : Prop where
  models : snapshot.models = snapshot'.models
  controllers : List.Forall₂ Controller.WithoutHidden snapshot.controllers snapshot'.controllers

namespace Generation

open TypeScript

variable {m : Mapping} {s : Settings} {c c' : Controller} {method : Method}

theorem alike_of_withoutHidden (m : Mapping) (s : Settings) (h : c.WithoutHidden c') :
    Alike m m s c c' := by
  have exposed : c.exposed = c'.exposed := by
    rw [Controller.exposed, Controller.exposed, ← h.name, h.methods.filter_eq]
  have resource : c.resourceName s.controllerSuffix = c'.resourceName s.controllerSuffix := by
    rw [Controller.resourceName, Controller.resourceName, h.name]
  constructor
  · exact h.name
  · rw [exposed]
  · rw [methodOutcomes, methodOutcomes, exposed, resource, h.name]

theorem generate_withoutHidden {snapshot snapshot' : Snapshot}
    (h : snapshot.WithoutHidden snapshot') : generate s snapshot = generate s snapshot' := by
  have maps : mapping s snapshot = mapping s snapshot' := by
    rw [mapping, mapping, Snapshot.registry, Snapshot.registry, h.models]
  refine generate_eq_of_alike h.models (h.controllers.imp fun c c' r => ?_)
  rw [maps]
  exact alike_of_withoutHidden _ s r

/-- Whether an exposed method is reported for its verb or for a type, which keeps it out of the
module. -/
def IsSkipped (m : Mapping) (s : Settings) (c : Controller) (method : Method) : Prop :=
  method.isExposedBy c.name = true ∧
    ∃ d ∈ (methodOutcome m c.name (c.resourceName s.controllerSuffix) method).diagnostics,
      d.kind = .unresolvableVerb ∨ d.kind = .unmappableType

instance (m : Mapping) (s : Settings) (c : Controller) : DecidablePred (IsSkipped m s c) :=
  fun _ => inferInstanceAs (Decidable (_ ∧ _))

def cleared (m : Mapping) (s : Settings) (c : Controller) : Controller :=
  { c with methods := c.methods.filter (¬IsSkipped m s c ·) }

/-- A snapshot without the controllers that are dropped and, in the others, without the methods
that are skipped. -/
def withoutFailures (s : Settings) (snapshot : Snapshot) : Snapshot :=
  { snapshot with
    controllers :=
      (snapshot.controllers.filter (¬IsDropped s ·)).map (cleared (mapping s snapshot) s) }

theorem entry_eq_none_iff {controller resource : String} :
    (methodOutcome m controller resource method).entry = none ↔
      ∃ d ∈ (methodOutcome m controller resource method).diagnostics,
        d.kind = .unresolvableVerb ∨ d.kind = .unmappableType := by
  obtain ⟨_, same⟩ | ⟨_, e, _, _, same⟩ | ⟨_, e, _, _, same⟩ :=
    methodOutcome_cases m controller resource method
  · simp [same, unresolvable]
  · simp [same, unmappable]
  · simp [same, excess]

theorem isSkipped_iff :
    IsSkipped m s c method ↔ method.isExposedBy c.name = true ∧
      (methodOutcome m c.name (c.resourceName s.controllerSuffix) method).entry = none := by
  rw [IsSkipped, entry_eq_none_iff]

theorem exposed_cleared : (cleared m s c).exposed = emittedMethods m s c := by
  rw [Controller.exposed, cleared, emittedMethods, Controller.exposed, List.filter_comm]
  refine List.filter_congr fun method hmethod => ?_
  have exposed : method.isExposedBy c.name = true := (List.mem_filter.1 hmethod).2
  rw [Bool.eq_iff_iff, decide_eq_true_eq, isSkipped_iff, Option.isSome_iff_ne_none]
  simp [exposed]

theorem filterMap_filter_isSome (f : α → Option β) (as : List α) :
    (as.filter fun a => (f a).isSome).filterMap f = as.filterMap f := by
  rw [List.filterMap_filter]
  congr
  funext a
  cases f a with
  | none => rfl
  | some b => rfl

theorem groupingOf_cleared : groupingOf m s (cleared m s c) = groupingOf m s c := by
  have entries : (methodOutcomes m s (cleared m s c)).filterMap (·.entry) =
      (methodOutcomes m s c).filterMap (·.entry) := by
    rw [methodOutcomes, methodOutcomes, exposed_cleared, List.filterMap_map, List.filterMap_map]
    exact filterMap_filter_isSome _ c.exposed
  rw [groupingOf, entries]
  rfl

theorem isDropped_of_cleared (h : IsDropped s (cleared m s c)) : IsDropped s c := by
  refine ⟨h.1, fun distinct => h.2 ?_⟩
  rw [exposed_cleared, emittedMethods]
  exact distinct.sublist (List.filter_sublist.map _)

theorem mem_diagnosticsOf_cleared {d : Diagnostic} (stays : ¬IsDropped s c)
    (h : d ∈ diagnosticsOf m s (cleared m s c)) :
    d.kind ≠ .unresolvableVerb ∧ d.kind ≠ .unmappableType ∧ d.severity ≠ .error := by
  have kinds : ¬(d.kind = .unresolvableVerb ∨ d.kind = .unmappableType) := by
    rcases mem_diagnosticsOf h with h | ⟨_, method, hmethod, h⟩
    · simp [(mem_duplicates h).1]
    · rw [exposed_cleared, emittedMethods, List.mem_filter, Option.isSome_iff_ne_none] at hmethod
      -- Nothing is left of the exposed methods but those that have an entry.
      exact fun kind => hmethod.2 (entry_eq_none_iff.2 ⟨d, h, kind⟩)
  rw [not_or] at kinds
  refine ⟨kinds.1, kinds.2, fun error => ?_⟩
  rcases error_of_mem_diagnosticsOf h error with kind | dropped
  · exact kinds.2 kind
  · exact stays (isDropped_of_cleared dropped)

theorem methodsNamed_skipped (m : Mapping) (controller resource : String) (method : Method) :
    methodsNamed .unresolvableVerb (methodOutcome m controller resource method).diagnostics
      ++ methodsNamed .unmappableType (methodOutcome m controller resource method).diagnostics =
    if (methodOutcome m controller resource method).entry = none then [some method.name] else [] := by
  have conserved := methodOutcome_conserves m controller resource method
  rw [List.append_assoc] at conserved
  cases h : (methodOutcome m controller resource method).entry with
  | none => simpa [h] using conserved
  | some e =>
    rw [h] at conserved
    simpa using (List.cons.inj conserved).2

theorem skipped_perm {snapshot : Snapshot} (valid : snapshot.Valid)
    (hc : c ∈ snapshot.controllers) (stays : ¬IsDropped s c) :
    ((c.methods.filter (IsSkipped (mapping s snapshot) s c ·)).map (some ·.name)).Perm
      (methodsReported .unresolvableVerb c.name (assembled s snapshot).diagnostics
        ++ methodsReported .unmappableType c.name (assembled s snapshot).diagnostics) := by
  have skipped : c.methods.filter (IsSkipped (mapping s snapshot) s c ·) =
      c.exposed.filter fun method => (methodOutcome (mapping s snapshot) c.name
        (c.resourceName s.controllerSuffix) method).entry = none := by
    rw [Controller.exposed, List.filter_filter]
    congr
    funext method
    rw [Bool.eq_iff_iff]
    simp [isSkipped_iff, and_comm]
  rw [methodsReported_assembled valid hc, methodsReported_assembled valid hc,
    methodsNamed_diagnosticsOf (by decide) stays, methodsNamed_diagnosticsOf (by decide) stays,
    skipped, ← flatMap_ite]
  refine .trans ?_ (List.flatMap_append_perm _ _ _).symm
  rw [methodOutcomes, List.flatMap_map]
  simp only [methodsNamed_skipped]
  rfl

section Run

variable {snapshot : Snapshot}

theorem kept_withoutFailures :
    kept s (withoutFailures s snapshot) =
      (kept s snapshot).map (cleared (mapping s snapshot) s) := by
  have sorted : inNameOrder (withoutFailures s snapshot) =
      (kept s snapshot).map (cleared (mapping s snapshot) s) := by
    rw [inNameOrder, withoutFailures, ← Text.map_sortByName fun _ _ => rfl,
      ← Text.filter_sortByName]
    rfl
  rw [kept, sorted, List.filter_eq_self]
  intro c' hc'
  obtain ⟨c, hc, rfl⟩ := List.mem_map.1 hc'
  rw [decide_eq_true_eq]
  exact mt isDropped_of_cleared (mem_kept.1 hc).2

theorem text_withoutFailures :
    (assembled s (withoutFailures s snapshot)).moduleText = (assembled s snapshot).moduleText := by
  have same : groupings s (withoutFailures s snapshot) = groupings s snapshot := by
    rw [groupings, kept_withoutFailures, List.map_map]
    exact List.map_congr_left fun _ _ => groupingOf_cleared
  rw [assembled, assembled, same]
  rfl

theorem mem_diagnostics_withoutFailures {d : Diagnostic}
    (h : d ∈ (assembled s (withoutFailures s snapshot)).diagnostics) :
    d.kind ≠ .unresolvableVerb ∧ d.kind ≠ .unmappableType ∧ d.severity ≠ .error := by
  obtain ⟨c', hc', hd⟩ := mem_diagnostics_assembled.1 h
  obtain ⟨c, hc, rfl⟩ := List.mem_map.1 hc'
  rw [List.mem_filter, decide_eq_true_eq] at hc
  exact mem_diagnosticsOf_cleared hc.2 hd

/-- A run is the same without methods that are not exposed. Without the controllers that it drops
and the methods that it reports for a verb or for a type, its text is the same, and nothing is
reported for a verb or for a type, nor as an error. -/
theorem generate_pruned {g : Generation} (enabled : s.isEnabled = true) (valid : snapshot.Valid)
    (h : generate s snapshot = .ok g) :
    (∀ snapshot', snapshot.WithoutHidden snapshot' → generate s snapshot' = .ok g) ∧
    (∀ c ∈ snapshot.controllers, ¬IsDropped s c →
      ((c.methods.filter (IsSkipped (mapping s snapshot) s c ·)).map (some ·.name)).Perm
        (methodsReported .unresolvableVerb c.name g.diagnostics
          ++ methodsReported .unmappableType c.name g.diagnostics)) ∧
    ∃ g', generate s (withoutFailures s snapshot) = .ok g' ∧ g'.moduleText = g.moduleText ∧
      ∀ d ∈ g'.diagnostics,
        d.kind ≠ .unresolvableVerb ∧ d.kind ≠ .unmappableType ∧ d.severity ≠ .error := by
  obtain rfl := eq_assembled_of_generate enabled h
  have sound : DataService.fault? s.moduleName snapshot.registry = none :=
    no_fault_of_generate enabled h
  refine ⟨fun snapshot' hidden => ?_, fun c hc stays => skipped_perm valid hc stays,
    assembled s (withoutFailures s snapshot), ?_, text_withoutFailures, fun d hd => ?_⟩
  · rw [← generate_withoutHidden hidden, h]
  · exact generate_of_no_fault enabled sound
  · exact mem_diagnostics_withoutFailures hd

theorem generate_pruned_strict :
    let roles : Controller :=
      { name := "RoleController", methods := [{ name := "GetRole" }, { name := "getrole" }] }
    let secret : Method := { name := "GetSecret", visibility := "private" }
    let rename : Method := { name := "Rename" }
    let users : Controller :=
      { name := "UserController", methods := [{ name := "GetAll" }, secret, rename] }
    let users' : Controller := { users with methods := [{ name := "GetAll" }, rename] }
    let s : Settings := { basePath := "/api" }
    let snapshot : Snapshot := ⟨["User"], [roles, users]⟩
    IsDropped s roles ∧ IsSkipped (mapping s snapshot) s users rename ∧
      ∃ g g', generate s snapshot = .ok g ∧ generate s ⟨["User"], [roles, users']⟩ = .ok g ∧
        generate s (withoutFailures s snapshot) = .ok g' ∧ g'.moduleText = g.moduleText := by
  intro roles secret rename users users' s snapshot
  have valid : snapshot.Valid := ⟨by decide, by decide⟩
  have returns : generate s snapshot = .ok (assembled s snapshot) :=
    generate_of_no_fault rfl (by decide +kernel)
  have hidden : snapshot.WithoutHidden ⟨["User"], [roles, users']⟩ := by
    refine ⟨rfl, .cons ⟨rfl, ?_⟩ (.cons ⟨rfl, ?_⟩ .nil)⟩
    · exact .keep _ (.keep _ .nil)
    · exact .keep _ (.delete (by decide) (.keep _ .nil))
  obtain ⟨same, _, g', cleared, text, _⟩ := generate_pruned rfl valid returns
  exact ⟨by decide +kernel, by decide +kernel, _, g', returns, same _ hidden, cleared, text⟩

end Run

end Generation

end ServiceClient

import ServiceClient.Proofs.Generation.Method
import ServiceClient.Proofs.Snapshot.Valid

namespace ServiceClient.Generation

open TypeScript

theorem mem_duplicatesAfter {severity : Severity} {controller : String}
    {seen : List (String × String)} {names : List String} {d : Diagnostic}
    (h : d ∈ duplicatesAfter severity controller seen names) :
    d.kind = .duplicateMethodName ∧ d.severity = severity ∧ d.controller = controller := by
  fun_induction duplicatesAfter severity controller seen names with
  | case1 => contradiction
  | case2 seen name names first _ ih =>
    rcases List.mem_cons.1 h with rfl | h
    · exact ⟨rfl, rfl, rfl⟩
    · exact ih h
  | case3 seen name names _ ih => exact ih h

theorem mem_duplicates {policy : DuplicatePolicy} {c : Controller} {d : Diagnostic}
    (h : d ∈ duplicates policy c) :
    d.kind = .duplicateMethodName ∧ d.severity = duplicateSeverity policy ∧
      d.controller = c.name :=
  mem_duplicatesAfter h

theorem mem_diagnostics_methodOutcome {m : Mapping} {controller resource : String}
    {method : Method} {d : Diagnostic}
    (h : d ∈ (methodOutcome m controller resource method).diagnostics) :
    d.controller = controller ∧ d.kind ≠ .duplicateMethodName ∧
      (d.severity = .error ↔ d.kind = .unmappableType) := by
  obtain ⟨_, same⟩ | ⟨_, e, _, _, same⟩ | ⟨_, e, _, _, same⟩ :=
    methodOutcome_cases m controller resource method
  · obtain rfl : d = unresolvable controller method.name := by simpa [same] using h
    simp [unresolvable]
  · obtain rfl : d = unmappable controller method.name e := by simpa [same] using h
    simp [unmappable]
  · obtain ⟨_, rfl⟩ : e.url.excess ≠ [] ∧ d = excess controller method.name e.url.excess := by
      simpa [same] using h
    simp [excess]

variable {m : Mapping} {s : Settings} {c : Controller} {d : Diagnostic}

theorem mem_diagnosticsOf (h : d ∈ diagnosticsOf m s c) :
    d ∈ duplicates s.duplicatePolicy c ∨ ¬IsDropped s c ∧ ∃ method ∈ c.exposed,
      d ∈ (methodOutcome m c.name (c.resourceName s.controllerSuffix) method).diagnostics := by
  rcases List.mem_append.1 h with h | h
  · exact .inl h
  · split at h
    · contradiction
    · next stays => exact .inr ⟨stays, by simpa [methodOutcomes] using h⟩

theorem controller_of_mem_diagnosticsOf (h : d ∈ diagnosticsOf m s c) : d.controller = c.name := by
  rcases mem_diagnosticsOf h with h | ⟨_, _, _, h⟩
  · exact (mem_duplicates h).2.2
  · exact (mem_diagnostics_methodOutcome h).1

theorem not_isDropped_of_nodup (distinct : (c.exposed.map fun m => Text.fold m.name).Nodup) :
    ¬IsDropped s c :=
  fun dropped => dropped.2 distinct

theorem diagnosticsOf_of_nodup (distinct : (c.exposed.map fun m => Text.fold m.name).Nodup) :
    diagnosticsOf m s c = (methodOutcomes m s c).flatMap (·.diagnostics) := by
  rw [diagnosticsOf, if_neg (not_isDropped_of_nodup distinct), duplicates_eq_nil_iff.2 distinct,
    List.nil_append]

theorem kind_of_isDropped (dropped : IsDropped s c) (h : d ∈ diagnosticsOf m s c) :
    d.kind = .duplicateMethodName := by
  rcases mem_diagnosticsOf h with h | ⟨stays, _⟩
  · exact (mem_duplicates h).1
  · contradiction

theorem error_of_mem_diagnosticsOf (h : d ∈ diagnosticsOf m s c) (error : d.severity = .error) :
    d.kind = .unmappableType ∨ IsDropped s c := by
  rcases mem_diagnosticsOf h with h | ⟨_, _, _, h⟩
  · right
    rw [isDropped_iff]
    refine ⟨List.ne_nil_of_mem h, ?_⟩
    rw [(mem_duplicates h).2.1] at error
    cases hp : s.duplicatePolicy with
    | strict => rfl
    | lenient => simp [hp, duplicateSeverity] at error
  · exact .inl ((mem_diagnostics_methodOutcome h).2.2.1 error)

theorem severity_of_unmappableType (h : d ∈ diagnosticsOf m s c) (kind : d.kind = .unmappableType) :
    d.severity = .error := by
  rcases mem_diagnosticsOf h with h | ⟨_, _, _, h⟩
  · simp [(mem_duplicates h).1] at kind
  · exact (mem_diagnostics_methodOutcome h).2.2.2 kind

theorem exists_error_of_isDropped (dropped : IsDropped s c) :
    ∃ d ∈ diagnosticsOf m s c, d.severity = .error := by
  obtain ⟨found, strict⟩ := isDropped_iff.1 dropped
  obtain ⟨d, hd⟩ := List.exists_mem_of_ne_nil _ found
  refine ⟨d, List.mem_append_left _ hd, ?_⟩
  rw [(mem_duplicates hd).2.1, strict]
  rfl

variable {snapshot : Snapshot}

theorem mem_diagnostics_assembled :
    d ∈ (assembled s snapshot).diagnostics ↔
      ∃ c ∈ snapshot.controllers, d ∈ diagnosticsOf (mapping s snapshot) s c := by
  simp only [assembled, List.mem_flatMap, (inNameOrder_perm snapshot).mem_iff]

theorem nodup_inNameOrder (valid : snapshot.Valid) : ((inNameOrder snapshot).map (·.name)).Nodup :=
  ((inNameOrder_perm snapshot).map _).nodup_iff.2 valid.controllers

def methodsNamed (kind : Diagnostic.Kind) (ds : List Diagnostic) : List (Option String) :=
  (ds.filter (·.kind = kind)).map (·.method)

def methodsReported (kind : Diagnostic.Kind) (controller : String) (ds : List Diagnostic) :
    List (Option String) :=
  methodsNamed kind (ds.filter (·.controller = controller))

section Keys

variable {α β γ : Type} {f : α → List β} {key : α → γ} {key' : β → γ}

theorem filter_flatMap_of_key (own : ∀ a, ∀ b ∈ f a, key' b = key a) (q : γ → Bool) (as : List α) :
    (as.flatMap f).filter (fun b => q (key' b)) = (as.filter fun a => q (key a)).flatMap f := by
  induction as with
  | nil => rfl
  | cons a as ih =>
    rw [List.flatMap_cons, List.filter_append, ih]
    cases h : q (key a) with
    | true =>
      have all : (f a).filter (fun b => q (key' b)) = f a :=
        List.filter_eq_self.2 fun b hb => by rw [own a b hb, h]
      simp [all, h]
    | false =>
      have none : (f a).filter (fun b => q (key' b)) = [] :=
        List.filter_eq_nil_iff.2 fun b hb => by simp [own a b hb, h]
      simp [none, h]

theorem filter_eq_singleton [DecidableEq γ] {as : List α} {a : α} (distinct : (as.map key).Nodup)
    (ha : a ∈ as) : as.filter (fun b => key b = key a) = [a] := by
  induction as with
  | nil => contradiction
  | cons first rest ih =>
    rw [List.map_cons, List.nodup_cons] at distinct
    rcases List.mem_cons.1 ha with rfl | later
    · have others : rest.filter (fun b => key b = key a) = [] := by
        refine List.filter_eq_nil_iff.2 fun b hb same => ?_
        exact distinct.1 (of_decide_eq_true same ▸ List.mem_map_of_mem hb)
      simp [others]
    · have differ : key first ≠ key a := fun same =>
        distinct.1 (same ▸ List.mem_map_of_mem later)
      simp [differ, ih distinct.2 later]

end Keys

theorem methodsReported_assembled (valid : snapshot.Valid) (hc : c ∈ snapshot.controllers)
    (kind : Diagnostic.Kind) :
    methodsReported kind c.name (assembled s snapshot).diagnostics =
      methodsNamed kind (diagnosticsOf (mapping s snapshot) s c) := by
  have member : c ∈ inNameOrder snapshot := (inNameOrder_perm snapshot).mem_iff.2 hc
  have own (c : Controller) (d : Diagnostic) (hd : d ∈ diagnosticsOf (mapping s snapshot) s c) :
      d.controller = c.name := controller_of_mem_diagnosticsOf hd
  have part := filter_flatMap_of_key own (· = c.name) (inNameOrder snapshot)
  rw [filter_eq_singleton (nodup_inNameOrder valid) member, List.flatMap_singleton] at part
  rw [methodsReported, ← part, assembled]

theorem hasErrors_assembled :
    (assembled s snapshot).hasErrors = true ↔
      (∃ d ∈ (assembled s snapshot).diagnostics, d.kind = .unmappableType) ∨
        ∃ c ∈ snapshot.controllers, IsDropped s c := by
  simp only [hasErrors, ServiceClient.hasErrors, List.any_eq_true, Diagnostic.isError,
    decide_eq_true_eq, mem_diagnostics_assembled]
  constructor
  · rintro ⟨d, ⟨c, hc, hd⟩, error⟩
    rcases error_of_mem_diagnosticsOf hd error with kind | dropped
    · exact .inl ⟨d, ⟨c, hc, hd⟩, kind⟩
    · exact .inr ⟨c, hc, dropped⟩
  · rintro (⟨d, ⟨c, hc, hd⟩, kind⟩ | ⟨c, hc, dropped⟩)
    · exact ⟨d, ⟨c, hc, hd⟩, severity_of_unmappableType hd kind⟩
    · obtain ⟨d, hd, error⟩ := exists_error_of_isDropped (m := mapping s snapshot) dropped
      exact ⟨d, ⟨c, hc, hd⟩, error⟩

end ServiceClient.Generation

import ServiceClient.Proofs.Generation.Duplicates
import ServiceClient.Proofs.TypeScript.Memory

/-!
Generation without a memory. What comes of a method depends on the mapping, the names of its
controller and the method alone, and what comes of a controller on the mapping, the settings and
the controller alone; a run puts the outcomes of the sorted controllers together.
-/

namespace ServiceClient.Generation

open TypeScript

def plainEntry (m : Mapping) (resource : String) (method : Method) (verb : Verb) :
    Except Unmappable Entry := do
  let url ← Url.build m.map Url.basePathReference resource method.name verb method.parameters
  Entry.build m.map method verb url

def methodOutcome (m : Mapping) (controller resource : String) (method : Method) : MethodOutcome :=
  match method.resolvedVerb with
  | none => { diagnostics := [unresolvable controller method.name] }
  | some verb =>
    match plainEntry m resource method verb with
    | .error e => { diagnostics := [unmappable controller method.name e] }
    | .ok e =>
      let leftOver := e.url.excess
      { entry := some e
        diagnostics := if leftOver = [] then [] else [excess controller method.name leftOver] }

def methodOutcomes (m : Mapping) (s : Settings) (c : Controller) : List MethodOutcome :=
  c.exposed.map (methodOutcome m c.name (c.resourceName s.controllerSuffix))

/-- Whether a run drops a controller: a strict one does where two exposed methods have names that
agree except for case. -/
def IsDropped (s : Settings) (c : Controller) : Prop :=
  s.duplicatePolicy = .strict ∧ ¬(c.exposed.map fun m => Text.fold m.name).Nodup

instance (s : Settings) : DecidablePred (IsDropped s) :=
  fun _ => inferInstanceAs (Decidable (_ ∧ _))

def groupingOf (m : Mapping) (s : Settings) (c : Controller) : Grouping where
  resourceName := c.resourceName s.controllerSuffix
  entries := (methodOutcomes m s c).filterMap (·.entry)

def diagnosticsOf (m : Mapping) (s : Settings) (c : Controller) : List Diagnostic :=
  duplicates s.duplicatePolicy c
    ++ if IsDropped s c then [] else (methodOutcomes m s c).flatMap (·.diagnostics)

def controllerOutcome (m : Mapping) (s : Settings) (c : Controller) : ControllerOutcome where
  grouping := if IsDropped s c then none else some (groupingOf m s c)
  diagnostics := diagnosticsOf m s c
  methods := c.exposed

def inNameOrder (snapshot : Snapshot) : List Controller :=
  Text.sortByName Controller.name snapshot.controllers

def kept (s : Settings) (snapshot : Snapshot) : List Controller :=
  (inNameOrder snapshot).filter (¬IsDropped s ·)

def groupings (s : Settings) (snapshot : Snapshot) : List Grouping :=
  (kept s snapshot).map (groupingOf (mapping s snapshot) s)

def textOf (s : Settings) (registry : Registry) (groupings : List Grouping) : String :=
  String.join ((DataService.lines s.moduleName s.modelImportPath s.apiRelativePath registry
    groupings).map (· ++ "\n"))

def assembled (s : Settings) (snapshot : Snapshot) : Generation :=
  let emitted := ((groupings s snapshot).flatMap (·.entries)).length
  { moduleText := textOf s snapshot.registry (groupings s snapshot)
    outputPath := s.outputPath
    diagnostics := (inNameOrder snapshot).flatMap (diagnosticsOf (mapping s snapshot) s)
    summary := ⟨snapshot.controllers.length, snapshot.methodCount, emitted,
      snapshot.methodCount - emitted⟩
    modules := [s.moduleName] }

theorem inNameOrder_perm (snapshot : Snapshot) :
    (inNameOrder snapshot).Perm snapshot.controllers :=
  Text.sortByName_perm _ _

theorem length_flatMap_inNameOrder (snapshot : Snapshot) :
    ((inNameOrder snapshot).flatMap (·.exposed)).length = snapshot.methodCount :=
  ((inNameOrder_perm snapshot).flatMap_right _).length_eq

theorem collect_eq (s : Settings) (snapshot : Snapshot) :
    collect s snapshot ((inNameOrder snapshot).map (controllerOutcome (mapping s snapshot) s)) =
      match DataService.fault? s.moduleName snapshot.registry with
      | some fault => .error fault
      | none => .ok (assembled s snapshot) := by
  have written : ((inNameOrder snapshot).map (controllerOutcome (mapping s snapshot) s)).filterMap
      (·.grouping) = groupings s snapshot := by
    rw [List.filterMap_map, groupings, kept, ← List.filterMap_eq_map, List.filterMap_filter]
    congr
    funext c
    by_cases h : IsDropped s c <;> simp [controllerOutcome, h]
  rw [collect, written, List.flatMap_map, List.flatMap_map, DataService.emit]
  simp only [controllerOutcome]
  rw [length_flatMap_inNameOrder]
  cases DataService.fault? s.moduleName snapshot.registry with
  | none => rfl
  | some fault => rfl

section Steady

variable {I : σ → Prop} {f : HostType → ExceptT Unmappable (StateM σ) Mapped}
  {g : HostType → Except Unmappable Mapped} (h : ∀ t, Steady I (f t).run (g t))
include h

theorem steady_url (base resource method : String) (verb : Verb) (parameters : List Parameter) :
    Steady I (Url.build f base resource method verb parameters).run
      (Url.build g base resource method verb parameters) := by
  rw [Url.build, Url.build]
  split
  · exact .run_pure _
  · refine .run_bind (.run_mapM fun p _ => ?_) fun _ => .run_pure _
    exact (h p.type).run_bind fun _ => .run_pure _

theorem steady_entryBuild (method : Method) (verb : Verb) (url : Url) :
    Steady I (Entry.build f method verb url).run (Entry.build g method verb url) := by
  refine .run_bind (.run_mapM fun p _ => ?_) fun _ => ?_
  · exact (h p.type).run_bind fun _ => .run_pure _
  · exact (h method.returnType).run_bind fun _ => .run_pure _

theorem steady_entry (resource : String) (method : Method) (verb : Verb) {m : Mapping}
    (hm : m.map = g) :
    Steady I (entry f resource method verb).run (plainEntry m resource method verb) := by
  subst hm
  exact (steady_url h _ _ _ _ _).run_bind fun url => steady_entryBuild h _ _ url

end Steady

variable {m : Mapping}

theorem steady_ofMethod (controller resource : String) (method : Method) :
    Steady (Memo.Faithful m) (ofMethod m.mapRemembering controller resource method)
      (methodOutcome m controller resource method) := by
  rw [ofMethod, methodOutcome]
  cases method.resolvedVerb with
  | none => exact .pure _
  | some verb =>
    dsimp only
    refine (steady_entry Mapping.steady_mapRemembering resource method verb rfl).bind ?_
    cases plainEntry m resource method verb with
    | error e => exact .pure _
    | ok e => exact .pure _

theorem isDropped_iff {s : Settings} {c : Controller} :
    IsDropped s c ↔ duplicates s.duplicatePolicy c ≠ [] ∧ s.duplicatePolicy = .strict := by
  rw [IsDropped, Ne, duplicates_eq_nil_iff, and_comm]

theorem nodup_of_strict {s : Settings} {c : Controller} (strict : s.duplicatePolicy = .strict)
    (stays : ¬IsDropped s c) : (c.exposed.map fun m => Text.fold m.name).Nodup := by
  by_contra clash
  exact stays ⟨strict, clash⟩

theorem controllerOutcome_eq (s : Settings) (c : Controller) :
    controllerOutcome m s c =
      if IsDropped s c then { diagnostics := duplicates s.duplicatePolicy c, methods := c.exposed }
      else
        { grouping := some (groupingOf m s c)
          diagnostics :=
            duplicates s.duplicatePolicy c ++ (methodOutcomes m s c).flatMap (·.diagnostics)
          methods := c.exposed } := by
  rw [controllerOutcome, diagnosticsOf]
  split
  · rw [List.append_nil]
  · rfl

theorem steady_ofController (s : Settings) (c : Controller) :
    Steady (Memo.Faithful m) (ofController m.mapRemembering s c) (controllerOutcome m s c) := by
  rw [ofController, controllerOutcome_eq]
  simp only [← isDropped_iff]
  split
  · exact .pure _
  · exact (Steady.mapM fun method _ => steady_ofMethod c.name _ method).bind (.pure _)

/-- A run puts together what comes of each controller by itself. -/
theorem generate_eq (s : Settings) (snapshot : Snapshot) :
    generate s snapshot =
      if s.isEnabled then
        match DataService.fault? s.moduleName snapshot.registry with
        | some fault => .error fault
        | none => .ok (assembled s snapshot)
      else .ok { outputPath := s.outputPath } := by
  let outcomes := (inNameOrder snapshot).map (controllerOutcome (mapping s snapshot) s)
  have steady : Steady (Memo.Faithful (mapping s snapshot))
      (produce (mapping s snapshot).mapRemembering s snapshot)
      (if s.isEnabled then collect s snapshot outcomes
        else .ok { outputPath := s.outputPath }) := by
    rw [produce]
    cases s.isEnabled with
    | false => exact .pure _
    | true => exact (Steady.mapM fun c _ => steady_ofController s c).bind (.pure _)
  rw [← collect_eq]
  exact (steady [] (Memo.faithful_nil _)).1

theorem generate_of_no_fault {s : Settings} {snapshot : Snapshot} (enabled : s.isEnabled = true)
    (h : DataService.fault? s.moduleName snapshot.registry = none) :
    generate s snapshot = .ok (assembled s snapshot) := by
  rw [generate_eq, if_pos enabled, h]

theorem no_fault_of_generate {s : Settings} {snapshot : Snapshot} {g : Generation}
    (enabled : s.isEnabled = true) (h : generate s snapshot = .ok g) :
    DataService.fault? s.moduleName snapshot.registry = none := by
  rw [generate_eq, if_pos enabled] at h
  split at h
  · contradiction
  · assumption

theorem eq_assembled_of_generate {s : Settings} {snapshot : Snapshot} {g : Generation}
    (enabled : s.isEnabled = true) (h : generate s snapshot = .ok g) :
    g = assembled s snapshot := by
  rw [generate_eq, if_pos enabled] at h
  split at h
  · contradiction
  · exact (Except.ok.inj h).symm

end ServiceClient.Generation

import ServiceClient.Proofs.Generation.Congruence
import ServiceClient.Proofs.TypeScript.Unqualified

namespace ServiceClient

def Diagnostic.withoutMessage (d : Diagnostic) : Diagnostic := { d with message := "" }

namespace Generation

open TypeScript Outcome

def withoutMessages (g : Generation) : Generation :=
  { g with diagnostics := g.diagnostics.map (·.withoutMessage) }

@[simp] theorem moduleText_withoutMessages (g : Generation) :
    g.withoutMessages.moduleText = g.moduleText := rfl

@[simp] theorem summary_withoutMessages (g : Generation) :
    g.withoutMessages.summary = g.summary := rfl

@[simp] theorem diagnostics_withoutMessages (g : Generation) :
    g.withoutMessages.diagnostics = g.diagnostics.map (·.withoutMessage) := rfl

def MethodOutcome.withoutMessages (o : MethodOutcome) : MethodOutcome :=
  { o with diagnostics := o.diagnostics.map (·.withoutMessage) }

section Parameter

variable {m : Mapping} {p p' : Parameter} (same : p.unqualified = p'.unqualified)
include same

theorem queryPair_unqualified :
    (Url.queryPair m.map p).toOption = (Url.queryPair m.map p').toOption := by
  have name : p.name = p'.name := by simpa using congrArg Parameter.name same
  have type : p.type.unqualified = p'.type.unqualified := by
    simpa using congrArg Parameter.type same
  refine toOption_bind_congr (Mapping.mapsAlike_unqualified _ _ type) fun mapped => ?_
  rw [Url.queryValue, Url.queryValue, name, (HostType.unqualified_eq_iff.1 type).1]

theorem signaturePart_unqualified :
    (Entry.signaturePart m.map p).toOption = (Entry.signaturePart m.map p').toOption := by
  have name : p.name = p'.name := by simpa using congrArg Parameter.name same
  have type : p.type.unqualified = p'.type.unqualified := by
    simpa using congrArg Parameter.type same
  refine toOption_bind_congr (Mapping.mapsAlike_unqualified _ _ type) fun mapped => ?_
  rw [name]

end Parameter

theorem url_unqualified {m : Mapping} {base resource name : String} {verb : Verb}
    {ps ps' : List Parameter}
    (same : List.Forall₂ (fun p p' => p.unqualified = p'.unqualified) ps ps') :
    (Url.build m.map base resource name verb ps).toOption =
      (Url.build m.map base resource name verb ps').toOption := by
  have names : ps.map (·.name) = ps'.map (·.name) :=
    Pointwise.map_eq same fun _ _ h => by simpa using congrArg Parameter.name h
  rw [Url.build, Url.build, names]
  split
  · rfl
  · exact toOption_bind_congr (Pointwise.toOption_mapM (same.imp fun _ _ => queryPair_unqualified))
      fun _ => rfl

section Method

variable {m : Mapping} {method method' : Method} (same : method.unqualified = method'.unqualified)
include same

theorem plainEntry_unqualified (resource : String) (verb : Verb) :
    (plainEntry m resource method verb).toOption =
      (plainEntry m resource method' verb).toOption := by
  have name : method.name = method'.name := by simpa using congrArg Method.name same
  have result : method.returnType.unqualified = method'.returnType.unqualified := by
    simpa using congrArg Method.returnType same
  have parameters := Pointwise.map_eq_map_iff.1 (congrArg Method.parameters same)
  rw [plainEntry, plainEntry, name]
  refine toOption_bind_congr (url_unqualified parameters) fun url => ?_
  rw [Entry.build, Entry.build, name]
  refine toOption_bind_congr
    (Pointwise.toOption_mapM (parameters.imp fun _ _ => signaturePart_unqualified)) fun parts => ?_
  exact toOption_bind_congr (Mapping.mapsAlike_unqualified _ _ result) fun _ => rfl

theorem methodOutcome_unqualified (controller resource : String) :
    (methodOutcome m controller resource method).withoutMessages =
      (methodOutcome m controller resource method').withoutMessages := by
  have name : method.name = method'.name := by simpa using congrArg Method.name same
  have verb : method.resolvedVerb = method'.resolvedVerb := by
    simpa using congrArg Method.resolvedVerb same
  rw [methodOutcome, methodOutcome, verb, name]
  cases method'.resolvedVerb with
  | none => rfl
  | some verb =>
    dsimp only
    obtain ⟨e, entry, entry'⟩ | ⟨e, e', entry, entry'⟩ :=
      toOption_eq_iff.1 (plainEntry_unqualified (m := m) same resource verb)
    · rw [entry, entry']
    · -- The errors may name different types, which only the messages tell.
      rw [entry, entry']
      rfl

end Method

section Controller

variable {m : Mapping} {s : Settings} {c c' : Controller} (same : c.unqualified = c'.unqualified)
include same

theorem exposed_unqualified :
    List.Forall₂ (fun method method' => method.unqualified = method'.unqualified) c.exposed
      c'.exposed := by
  have exposed := congrArg Controller.exposed same
  rwa [Controller.exposed_unqualified, Controller.exposed_unqualified,
    Pointwise.map_eq_map_iff] at exposed

theorem sameNames_unqualified : SameNames c c' where
  name := by simpa using congrArg Controller.name same
  methods := Pointwise.map_eq (exposed_unqualified same) fun _ _ h => by
    simpa using congrArg Method.name h

theorem methodOutcomes_unqualified :
    (methodOutcomes m s c).map (·.withoutMessages) =
      (methodOutcomes m s c').map (·.withoutMessages) := by
  have names := sameNames_unqualified same
  rw [methodOutcomes, methodOutcomes, names.name, names.resourceName, List.map_map, List.map_map]
  exact Pointwise.map_eq (exposed_unqualified same) fun _ _ same =>
    methodOutcome_unqualified same _ _

theorem groupingOf_unqualified : groupingOf m s c = groupingOf m s c' := by
  have outcomes := methodOutcomes_unqualified (m := m) (s := s) same
  have entries := congrArg (List.filterMap (·.entry)) outcomes
  rw [List.filterMap_map, List.filterMap_map] at entries
  rw [groupingOf, groupingOf, (sameNames_unqualified same).resourceName]
  exact congrArg (Grouping.mk _) entries

theorem diagnosticsOf_unqualified :
    (diagnosticsOf m s c).map (·.withoutMessage) =
      (diagnosticsOf m s c').map (·.withoutMessage) := by
  have names := sameNames_unqualified same
  have outcomes := methodOutcomes_unqualified (m := m) (s := s) same
  have told := congrArg (List.flatMap (·.diagnostics)) outcomes
  rw [List.flatMap_map, List.flatMap_map] at told
  rw [diagnosticsOf, diagnosticsOf, names.duplicates, List.map_append, List.map_append]
  simp only [names.isDropped]
  split
  · rfl
  · rw [List.map_flatMap, List.map_flatMap]
    exact congrArg (_ ++ ·) told

end Controller

variable {s : Settings} {snapshot snapshot' : Snapshot}

theorem assembled_unqualified (same : snapshot.unqualified = snapshot'.unqualified) :
    (assembled s snapshot).withoutMessages = (assembled s snapshot').withoutMessages := by
  have registry : snapshot.registry = snapshot'.registry := by
    simpa using congrArg Snapshot.registry same
  have controllers := Pointwise.map_eq_map_iff.1 (congrArg Snapshot.controllers same)
  have names : ∀ c c' : Controller, c.unqualified = c'.unqualified → SameNames c c' :=
    fun _ _ => sameNames_unqualified
  have mappings : mapping s snapshot = mapping s snapshot' := by rw [mapping, mapping, registry]
  have written : groupings s snapshot = groupings s snapshot' := by
    refine groupings_eq_of_sameNames controllers names fun c c' same => ?_
    rw [mappings]
    exact groupingOf_unqualified same
  have reported :
      ((inNameOrder snapshot).flatMap (diagnosticsOf (mapping s snapshot) s)).map
          (·.withoutMessage) =
        ((inNameOrder snapshot').flatMap (diagnosticsOf (mapping s snapshot') s)).map
          (·.withoutMessage) := by
    rw [mappings, List.map_flatMap, List.map_flatMap]
    exact flatMap_inNameOrder_of_sameNames controllers names fun _ _ => diagnosticsOf_unqualified
  rw [withoutMessages, withoutMessages, assembled, assembled, reported, written, registry,
    controllers.length_eq, methodCount_eq_of_sameNames controllers names]

/-- Snapshots that are the same but for the namespaces and arities of types lead to the same error
or to results that are the same but for the messages of diagnostics. -/
theorem generate_unqualified (s : Settings) (same : snapshot.unqualified = snapshot'.unqualified) :
    (∃ fault, generate s snapshot = .error fault ∧ generate s snapshot' = .error fault) ∨
      ∃ g g', generate s snapshot = .ok g ∧ generate s snapshot' = .ok g' ∧
        g.withoutMessages = g'.withoutMessages := by
  have registry : snapshot.registry = snapshot'.registry := by
    simpa using congrArg Snapshot.registry same
  rw [generate_eq, generate_eq, registry]
  cases s.isEnabled with
  | false => exact .inr ⟨_, _, rfl, rfl, rfl⟩
  | true =>
    cases DataService.fault? s.moduleName snapshot'.registry with
    | some fault => exact .inl ⟨fault, rfl, rfl⟩
    | none => exact .inr ⟨_, _, rfl, rfl, assembled_unqualified same⟩

theorem generate_unqualified_library :
    let controller (date users stream : HostType) : Controller :=
      { name := "LogController"
        methods :=
          [{ name := "GetUsers", parameters := [⟨"since", date⟩], returnType := users },
            { name := "GetLog", returnType := stream }] }
    let long : Snapshot :=
      ⟨["User"], [controller
        { name := "System.Nullable`1", arguments := [{ name := "System.DateTime" }] }
        { name := "System.Collections.Generic.List`1", arguments := [{ name := "Models.User" }] }
        { name := "System.IO.Stream" }]⟩
    let short : Snapshot :=
      ⟨["User"], [controller
        { name := "Nullable", arguments := [{ name := "DateTime" }] }
        { name := "List", arguments := [{ name := "User" }] }
        { name := "Stream" }]⟩
    let s : Settings := { basePath := "/api" }
    ∃ g g', generate s long = .ok g ∧ generate s short = .ok g' ∧ g.moduleText = g'.moduleText ∧
      g.summary = g'.summary ∧
      g.diagnostics.map (·.withoutMessage) = g'.diagnostics.map (·.withoutMessage) := by
  intro controller long short s
  have same : long.unqualified = short.unqualified := by decide +kernel
  obtain ⟨g, returns⟩ : ∃ g, generate s long = .ok g :=
    ⟨_, generate_of_no_fault rfl (by decide +kernel)⟩
  obtain ⟨_, fails, _⟩ | ⟨g, g', returns, returns', told⟩ := generate_unqualified s same
  · cases returns.symm.trans fails
  · refine ⟨g, g', returns, returns', ?_, ?_, ?_⟩
    · simpa using congrArg moduleText told
    · simpa using congrArg summary told
    · simpa using congrArg diagnostics told

end Generation

end ServiceClient

import ServiceClient.Proofs.Generation.Congruence
import ServiceClient.Proofs.TypeScript.Marking

namespace ServiceClient.Generation

open TypeScript

section Marked

variable {m : Mapping} {names : List String} (registered : names ⊆ m.registry.models)
include registered

theorem queryPair_markModels (p : Parameter) :
    Url.queryPair m.map (p.markModels names) = Url.queryPair m.map p := by
  simp only [Url.queryPair, Url.queryValue, Parameter.markModels,
    Mapping.map_markModels registered, HostType.simpleName_markModels]

theorem signaturePart_markModels (p : Parameter) :
    Entry.signaturePart m.map (p.markModels names) = Entry.signaturePart m.map p := by
  simp only [Entry.signaturePart, Parameter.markModels, Mapping.map_markModels registered]

theorem url_markModels (base resource method : String) (verb : Verb) (ps : List Parameter) :
    Url.build m.map base resource method verb (ps.map (·.markModels names)) =
      Url.build m.map base resource method verb ps := by
  have pairs : Url.queryPair m.map ∘ (·.markModels names) = Url.queryPair m.map :=
    funext (queryPair_markModels registered)
  have same : (ps.map (·.markModels names)).map (·.name) = ps.map (·.name) := by
    rw [List.map_map]
    rfl
  rw [Url.build, Url.build, List.mapM_map, pairs, same]

theorem entryBuild_markModels (method : Method) (verb : Verb) (url : Url) :
    Entry.build m.map (method.markModels names) verb url = Entry.build m.map method verb url := by
  have parts : Entry.signaturePart m.map ∘ (·.markModels names) = Entry.signaturePart m.map :=
    funext (signaturePart_markModels registered)
  simp only [Entry.build, Method.markModels, List.mapM_map, parts,
    Mapping.map_markModels registered]

theorem methodOutcome_markModels (controller resource : String) (method : Method) :
    methodOutcome m controller resource (method.markModels names) =
      methodOutcome m controller resource method := by
  have entries (verb : Verb) :
      plainEntry m resource (method.markModels names) verb = plainEntry m resource method verb := by
    have url := url_markModels registered Url.basePathReference resource method.name verb
      method.parameters
    simp only [plainEntry, entryBuild_markModels registered, ← url]
    rfl
  simp only [methodOutcome, entries]
  rfl

theorem alike_markModels (s : Settings) (c : Controller) : Alike m m s (c.markModels names) c := by
  have exposed : (c.markModels names).exposed = c.exposed.map (·.markModels names) := by
    rw [Controller.exposed, Controller.markModels, List.filter_map]
    rfl
  constructor
  · rfl
  · rw [exposed, List.map_map]
    rfl
  · rw [methodOutcomes, methodOutcomes, exposed, List.map_map]
    exact congrArg (List.map · c.exposed)
      (funext fun _ => methodOutcome_markModels registered _ _ _)

end Marked

theorem forall₂_alike_markModels (s : Settings) (snapshot : Snapshot) :
    List.Forall₂ (Alike (mapping s snapshot) (mapping s snapshot) s)
      snapshot.markModels.controllers snapshot.controllers := by
  have registered : snapshot.models ⊆ (mapping s snapshot).registry.models := by
    intro name
    simp [mapping, Snapshot.registry]
  rw [Snapshot.markModels, List.forall₂_map_left_iff, List.forall₂_same]
  exact fun c _ => alike_markModels registered s c

theorem groupings_markModels (s : Settings) (snapshot : Snapshot) :
    groupings s snapshot.markModels = groupings s snapshot :=
  groupings_eq_of_sameNames (forall₂_alike_markModels s snapshot) (fun _ _ r => r.sameNames)
    fun _ _ r => r.grouping

theorem generate_markModels (s : Settings) (snapshot : Snapshot) :
    generate s snapshot.markModels = generate s snapshot :=
  generate_eq_of_alike rfl (forall₂_alike_markModels s snapshot)

/-- To mark the registered models changes neither a run nor the mapping of a type, also where other
types were mapped before it. -/
theorem marked_as_registered :
    (∀ (s : Settings) (snapshot : Snapshot),
      generate s snapshot.markModels = generate s snapshot) ∧
    ∀ (m : Mapping) (t : HostType), m.map (t.markModels m.registry.models) = m.map t ∧
      ∀ before : List HostType,
        ((m.mapEach (before ++ [t.markModels m.registry.models])).run []).1 =
          ((m.mapEach (before ++ [t])).run []).1 := by
  refine ⟨generate_markModels, fun m t => ?_⟩
  have same : m.map (t.markModels m.registry.models) = m.map t :=
    Mapping.map_markModels (List.Subset.refl _) t
  refine ⟨same, fun before => ?_⟩
  have marked := Mapping.steady_mapEach (m := m) (before ++ [t.markModels m.registry.models])
  have plain := Mapping.steady_mapEach (m := m) (before ++ [t])
  rw [(marked [] (Memo.faithful_nil m)).1, (plain [] (Memo.faithful_nil m)).1]
  simp only [List.map_append, List.map_cons, same]

end ServiceClient.Generation

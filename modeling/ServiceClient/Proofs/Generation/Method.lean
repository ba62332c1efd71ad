import ServiceClient.Proofs.Generation.Plain
import ServiceClient.Proofs.Outcome

namespace ServiceClient.Generation

open TypeScript

variable {m : Mapping} {controller resource : String} {method : Method}

theorem build_cases {f : HostType → Except Unmappable Mapped} {base resource name : String}
    {verb : Verb} {ps : List Parameter} {url : Url}
    (h : Url.build f base resource name verb ps = .ok url) :
    (verb = .post ∧ url.query = "" ∧ url.body = (ps.map (·.name)).head? ∧
      url.excess = (ps.map (·.name)).tail) ∨
    (verb ≠ .post ∧ url.body = none ∧ url.excess = [] ∧
      ∃ pairs, ps.mapM (Url.queryPair f) = .ok pairs ∧ url.query = "&".intercalate pairs) := by
  rw [Url.build] at h
  split at h
  · next post =>
    cases h
    exact .inl ⟨post, rfl, rfl, rfl⟩
  · next other =>
    obtain ⟨pairs, hpairs, h⟩ := Outcome.bind_eq_ok_iff.1 h
    cases h
    exact .inr ⟨other, rfl, rfl, pairs, hpairs, rfl⟩

theorem path_of_build {f : HostType → Except Unmappable Mapped} {base resource name : String}
    {verb : Verb} {ps : List Parameter} {url : Url}
    (h : Url.build f base resource name verb ps = .ok url) :
    url.path = combineUri [base, Naming.camelize resource, Naming.camelize name] := by
  rw [Url.build] at h
  split at h
  · cases h
    rfl
  · obtain ⟨_, _, h⟩ := Outcome.bind_eq_ok_iff.1 h
    cases h
    rfl

theorem excess_of_build {f : HostType → Except Unmappable Mapped} {base resource name : String}
    {verb : Verb} {ps : List Parameter} {url : Url}
    (h : Url.build f base resource name verb ps = .ok url) :
    url.excess = if verb = .post then (ps.map (·.name)).tail else [] := by
  obtain ⟨post, _, _, excess⟩ | ⟨other, _, excess, _⟩ := build_cases h
  · rw [if_pos post, excess]
  · rw [if_neg other, excess]

structure IsMadeOf (m : Mapping) (resource : String) (method : Method) (verb : Verb) (e : Entry)
    (parts : List String) (mapped : Mapped) : Prop where
  url : Url.build m.map Url.basePathReference resource method.name verb method.parameters =
    .ok e.url
  signature : method.parameters.mapM (Entry.signaturePart m.map) = .ok parts
  result : m.map method.returnType = .ok mapped
  sourceName : e.sourceName = method.name
  name : e.name = Naming.camelize method.name
  verb : e.verb = verb
  parameters : e.parameters = ", ".intercalate parts
  returnType : e.returnType = mapped.expression
  resultMapping : e.resultMapping = mapped.resultMapping

theorem exists_isMadeOf {verb : Verb} {e : Entry} (h : plainEntry m resource method verb = .ok e) :
    ∃ parts mapped, IsMadeOf m resource method verb e parts mapped := by
  obtain ⟨url, hurl, h⟩ := Outcome.bind_eq_ok_iff.1 h
  obtain ⟨parts, hparts, h⟩ := Outcome.bind_eq_ok_iff.1 h
  obtain ⟨mapped, hmapped, h⟩ := Outcome.bind_eq_ok_iff.1 h
  cases h
  exact ⟨parts, mapped, hurl, hparts, hmapped, rfl, rfl, rfl, rfl, rfl, rfl⟩

theorem plainEntry_spec {verb : Verb} {e : Entry} (h : plainEntry m resource method verb = .ok e) :
    e.sourceName = method.name ∧ e.verb = verb ∧
      e.url.excess = if verb = .post then (method.parameters.map (·.name)).tail else [] := by
  obtain ⟨_, _, made⟩ := exists_isMadeOf h
  exact ⟨made.sourceName, made.verb, excess_of_build made.url⟩

theorem methodOutcome_cases (m : Mapping) (controller resource : String) (method : Method) :
    (method.resolvedVerb = none ∧ methodOutcome m controller resource method
      = { diagnostics := [unresolvable controller method.name] }) ∨
    (∃ verb e, method.resolvedVerb = some verb ∧ plainEntry m resource method verb = .error e ∧
      methodOutcome m controller resource method
        = { diagnostics := [unmappable controller method.name e] }) ∨
    ∃ verb e, method.resolvedVerb = some verb ∧ plainEntry m resource method verb = .ok e ∧
      methodOutcome m controller resource method
        = { entry := some e
            diagnostics :=
              if e.url.excess = [] then [] else [excess controller method.name e.url.excess] } := by
  rw [methodOutcome]
  cases hverb : method.resolvedVerb with
  | none => exact .inl ⟨rfl, rfl⟩
  | some verb =>
    cases hentry : plainEntry m resource method verb with
    | error e => exact .inr (.inl ⟨verb, e, rfl, hentry, by simp only [hentry]⟩)
    | ok e => exact .inr (.inr ⟨verb, e, rfl, hentry, by simp only [hentry]⟩)

def IsCall (m : Mapping) (method : Method) : Prop :=
  (∃ verb, method.resolvedVerb = some verb) ∧ method.parameters = [] ∧
    ∃ mapped, m.map method.returnType = .ok mapped

theorem exists_entry_of_isCall (controller resource : String) (h : IsCall m method) :
    ∃ e, methodOutcome m controller resource method = { entry := some e } := by
  obtain ⟨⟨verb, hverb⟩, hparameters, mapped, htype⟩ := h
  have built : ∃ e, plainEntry m resource method verb = .ok e := by
    by_cases post : verb = .post
    · simp [plainEntry, Url.build, Entry.build, hparameters, htype, post]
    · simp [plainEntry, Url.build, Entry.build, hparameters, htype, post]
  obtain ⟨e, hentry⟩ := built
  have nothing : e.url.excess = [] := by simp [(plainEntry_spec hentry).2.2, hparameters]
  refine ⟨e, ?_⟩
  rw [methodOutcome, hverb]
  simp only [hentry, nothing, if_true]

theorem diagnostics_of_isCall (h : IsCall m method) :
    (methodOutcome m controller resource method).diagnostics = [] := by
  obtain ⟨e, same⟩ := exists_entry_of_isCall controller resource h
  rw [same]

theorem plainEntry_of_methodOutcome {e : Entry}
    (h : (methodOutcome m controller resource method).entry = some e) :
    ∃ verb, method.resolvedVerb = some verb ∧ plainEntry m resource method verb = .ok e := by
  obtain ⟨_, same⟩ | ⟨_, _, _, _, same⟩ | ⟨verb, e', hverb, hentry, same⟩ :=
    methodOutcome_cases m controller resource method
  · simp [same] at h
  · simp [same] at h
  · obtain rfl : e' = e := by simpa [same] using h
    exact ⟨verb, hverb, hentry⟩

theorem map_filterMap_sublist {α β γ : Type} {f : α → Option β} {name : α → γ} {name' : β → γ}
    (same : ∀ a b, f a = some b → name' b = name a) (as : List α) :
    ((as.filterMap f).map name').Sublist (as.map name) := by
  induction as with
  | nil => exact .slnil
  | cons a as ih =>
    rw [List.filterMap_cons]
    split
    · exact ih.cons _
    · next b hb =>
      rw [List.map_cons, List.map_cons, same a b hb]
      exact ih.cons_cons _

theorem sourceNames_sublist (m : Mapping) (s : Settings) (c : Controller) :
    ((groupingOf m s c).entries.map (·.sourceName)).Sublist (c.exposed.map (·.name)) := by
  rw [groupingOf, methodOutcomes, List.filterMap_map]
  refine map_filterMap_sublist (fun method e h => ?_) _
  obtain ⟨verb, _, hentry⟩ := plainEntry_of_methodOutcome h
  exact (plainEntry_spec hentry).1

end ServiceClient.Generation

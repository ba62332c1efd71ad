import ServiceClient.Proofs.Generation.Congruence
import ServiceClient.Proofs.Generation.Conservation
import ServiceClient.Proofs.Snapshot.Types
import ServiceClient.Proofs.TypeScript.Blame

namespace ServiceClient

def Method.annotated (method : Method) (verb : Verb) : Method := { method with verb := some verb }

structure Site where
  models : List String := []
  before : List Controller := []
  controller : String
  earlier : List Method := []
  method : Method
  later : List Method := []
  after : List Controller := []

namespace Site

def ownerWith (site : Site) (method : Method) : Controller :=
  ⟨site.controller, site.earlier ++ method :: site.later⟩

def owner (site : Site) : Controller := site.ownerWith site.method

def ownerUnder (site : Site) (verb : Verb) : Controller :=
  site.ownerWith (site.method.annotated verb)

def under (site : Site) (verb : Verb) : Snapshot :=
  ⟨site.models, site.before ++ site.ownerUnder verb :: site.after⟩

def mapping (site : Site) (s : Settings) : TypeScript.Mapping :=
  ⟨⟨site.models.eraseDups⟩, s.typeOverrides⟩

end Site

namespace Generation

open TypeScript Outcome

section Method

variable {m : Mapping} {resource : String} {method : Method} {verb : Verb}

theorem error?_query {base name : String} {ps : List Parameter} (other : verb ≠ .post) :
    error? (Url.build m.map base resource name verb ps) =
      ps.findSome? fun p => error? (m.map p.type) := by
  rw [Url.build, if_neg other]
  apply error?_bind_pure.trans
  simp only [error?_mapM, Url.queryPair, error?_bind_pure]

theorem error?_signature (url : Url) :
    error? (Entry.build m.map method verb url) =
      method.types.findSome? fun t => error? (m.map t) := by
  rw [Entry.build]
  apply (error?_bind_of_eq fun _ _ => error?_bind_pure).trans
  simp only [error?_mapM, Entry.signaturePart, error?_bind_pure, Method.types,
    List.findSome?_append, List.findSome?_map, List.findSome?_singleton, Function.comp_def]

theorem error?_plainEntry :
    error? (plainEntry m resource method verb) =
      method.types.findSome? fun t => error? (m.map t) := by
  rw [plainEntry, error?_bind_of_eq fun url _ => error?_signature url]
  by_cases post : verb = .post
  · rw [Url.build, if_pos post]
    rfl
  · -- What the query fails on, the signature would fail on as well.
    rw [error?_query post, Method.types, List.findSome?_append, ← Option.or_assoc,
      List.findSome?_map]
    simp only [Function.comp_def, Option.or_self]

theorem exists_plainEntry_iff :
    (∃ e, plainEntry m resource method verb = .ok e) ↔ ∀ t ∈ method.types, m.IsMappable t := by
  rw [← error?_eq_none_iff, error?_plainEntry, Mapping.findSome?_eq_none_iff]

theorem plainEntry_of_failsFirst {t u : HostType} (h : m.FailsFirst method.types t u) :
    plainEntry m resource method verb = .error (complaint u) := by
  rw [← error?_eq_some_iff, error?_plainEntry, h.findSome?]

theorem methodOutcome_of_error {controller : String} {e : Unmappable}
    (known : method.resolvedVerb = some verb) (h : plainEntry m resource method verb = .error e) :
    methodOutcome m controller resource method =
      { diagnostics := [unmappable controller method.name e] } := by
  rw [methodOutcome, known]
  simp only [h]

theorem methodOutcome_annotated {t u : HostType} (fails : m.FailsFirst method.types t u)
    (controller resource : String) (verb : Verb) :
    methodOutcome m controller resource (method.annotated verb) =
      { diagnostics := [unmappable controller method.name (complaint u)] } :=
  methodOutcome_of_error rfl (plainEntry_of_failsFirst fails)

theorem entry_of_plainEntry {controller : String} {e : Entry}
    (known : method.resolvedVerb = some verb) (h : plainEntry m resource method verb = .ok e) :
    (methodOutcome m controller resource method).entry = some e := by
  rw [methodOutcome, known]
  simp only [h]

theorem mem_emittedMethods_iff {s : Settings} {c : Controller}
    (known : method.resolvedVerb = some verb) :
    method ∈ emittedMethods m s c ↔ method ∈ c.exposed ∧ ∀ t ∈ method.types, m.IsMappable t := by
  rw [emittedMethods, List.mem_filter, Option.isSome_iff_exists]
  refine and_congr_right fun _ => ⟨?_, ?_⟩
  · rintro ⟨e, he⟩
    obtain ⟨verb, _, hentry⟩ := plainEntry_of_methodOutcome he
    exact exists_plainEntry_iff.1 ⟨e, hentry⟩
  · intro mappable
    obtain ⟨e, hentry⟩ := exists_plainEntry_iff.2 mappable
    exact ⟨e, entry_of_plainEntry known hentry⟩

end Method

/-- Whether the module of a run has the line of a method, in the block of its controller. -/
def Emits (s : Settings) (snapshot : Snapshot) (g : Generation) (c : Controller)
    (method : Method) : Prop :=
  ∃ before block after methods,
    g.moduleText = textWith s snapshot.models (before ++ block ++ after) ∧
    IsBlock (mapping s snapshot) s c methods block ∧ methods.Subperm c.exposed ∧ method ∈ methods

theorem mappable_of_isLine {m : Mapping} {resource line : String} {method : Method}
    (h : IsLine m resource method line) : ∀ t ∈ method.types, m.IsMappable t := by
  obtain ⟨_, _, result, _, _, _, typed, hresult, _⟩ := h
  intro t ht
  rw [Method.types, List.mem_append, List.mem_map, List.mem_singleton] at ht
  obtain ⟨p, hp, rfl⟩ | rfl := ht
  · obtain ⟨_, _, mapped, hmapped, _⟩ := Pointwise.exists_of_mem typed.flip hp
    exact ⟨mapped, hmapped⟩
  · exact ⟨result, hresult⟩

theorem exists_block_assembled {s : Settings} {snapshot : Snapshot} {c : Controller}
    (hc : c ∈ kept s snapshot) : ∃ before after, (assembled s snapshot).moduleText =
      textWith s snapshot.models (before ++ linesOf s snapshot.models c ++ after) := by
  obtain ⟨earlier, later, split⟩ :=
    List.append_of_mem ((inResourceOrder_perm s snapshot).mem_iff.2 hc)
  refine ⟨earlier.flatMap (linesOf s snapshot.models),
    later.flatMap (linesOf s snapshot.models), ?_⟩
  rw [text_assembled, split, List.flatMap_append, List.flatMap_cons, List.append_assoc]

theorem emits_assembled_iff {s : Settings} {snapshot : Snapshot} {c : Controller} {method : Method}
    {verb : Verb} (hc : c ∈ kept s snapshot) (hmethod : method ∈ c.exposed)
    (known : method.resolvedVerb = some verb) :
    Emits s snapshot (assembled s snapshot) c method ↔
      ∀ t ∈ method.types, (mapping s snapshot).IsMappable t := by
  constructor
  · rintro ⟨_, _, _, methods, _, ⟨lines, shown, _⟩, _, member⟩
    obtain ⟨_, _, line⟩ := Pointwise.exists_of_mem shown.flip member
    exact mappable_of_isLine line
  · intro mappable
    obtain ⟨before, after, text⟩ := exists_block_assembled hc
    have sorted := Text.sortByName_perm Method.name (emittedMethods (mapping s snapshot) s c)
    refine ⟨before, _, after, _, text, isBlock_groupingOf (mapping s snapshot) s c,
      sorted.subperm.trans List.filter_sublist.subperm, ?_⟩
    rw [sorted.mem_iff, mem_emittedMethods_iff known]
    exact ⟨hmethod, mappable⟩

section Site

variable {s : Settings} {site : Site}
  (exposed : site.method.isExposedBy site.controller = true)
include exposed

theorem exposed_ownerUnder (verb : Verb) :
    (site.ownerUnder verb).exposed = site.earlier.filter (·.isExposedBy site.controller) ++
      site.method.annotated verb :: site.later.filter (·.isExposedBy site.controller) := by
  have annotated : (site.method.annotated verb).isExposedBy site.controller = true := exposed
  simp [Controller.exposed, Site.ownerUnder, Site.ownerWith, annotated]

theorem mem_exposed_ownerUnder (verb : Verb) :
    site.method.annotated verb ∈ (site.ownerUnder verb).exposed := by
  simp [exposed_ownerUnder exposed]

theorem sameNames_owner (verb : Verb) : SameNames site.owner (site.ownerUnder verb) := by
  constructor
  · rfl
  · rw [exposed_ownerUnder exposed]
    simp [Controller.exposed, Site.owner, Site.ownerWith, exposed, Method.annotated]

theorem mem_kept_under (stays : ¬IsDropped s site.owner) (verb : Verb) :
    site.ownerUnder verb ∈ kept s (site.under verb) := by
  rw [mem_kept, ← (sameNames_owner exposed verb).isDropped]
  exact ⟨by simp [Site.under], stays⟩

theorem alike_ownerUnder {t u : HostType}
    (fails : (site.mapping s).FailsFirst site.method.types t u) (verb verb' : Verb) :
    Alike (site.mapping s) (site.mapping s) s (site.ownerUnder verb) (site.ownerUnder verb') := by
  have names := (sameNames_owner exposed verb).methods.symm.trans
    (sameNames_owner exposed verb').methods
  refine ⟨rfl, names, ?_⟩
  rw [methodOutcomes, methodOutcomes, exposed_ownerUnder exposed, exposed_ownerUnder exposed,
    List.map_append, List.map_cons, List.map_append, List.map_cons]
  congr 2
  exact (methodOutcome_annotated fails _ _ verb).trans
    (methodOutcome_annotated fails _ _ verb').symm

theorem generate_under_eq {t u : HostType}
    (fails : (site.mapping s).FailsFirst site.method.types t u) (verb verb' : Verb) :
    generate s (site.under verb) = generate s (site.under verb') := by
  have others (cs : List Controller) :
      List.Forall₂ (Alike (site.mapping s) (site.mapping s) s) cs cs :=
    List.forall₂_same.2 fun _ _ => ⟨rfl, rfl, rfl⟩
  have alike : List.Forall₂ (Alike (site.mapping s) (site.mapping s) s)
      (site.under verb).controllers (site.under verb').controllers :=
    List.rel_append (others _) (.cons (alike_ownerUnder exposed fails verb verb') (others _))
  exact generate_eq_of_alike rfl alike

theorem mem_diagnostics_under (stays : ¬IsDropped s site.owner) {t u : HostType}
    (fails : (site.mapping s).FailsFirst site.method.types t u) (verb : Verb) :
    unmappable site.controller site.method.name (complaint u) ∈
      (assembled s (site.under verb)).diagnostics := by
  have member := mem_kept.1 (mem_kept_under exposed stays verb)
  refine mem_diagnostics_assembled.2 ⟨_, member.1, List.mem_append_right _ ?_⟩
  rw [if_neg member.2, List.mem_flatMap]
  refine ⟨_, List.mem_map_of_mem (mem_exposed_ownerUnder exposed verb), ?_⟩
  have outcome := methodOutcome_annotated fails (site.ownerUnder verb).name
    ((site.ownerUnder verb).resourceName s.controllerSuffix) verb
  exact List.mem_of_mem_head? (congrArg (·.diagnostics.head?) outcome)

/-- The annotation of an exposed method does not decide whether a run writes the method, which it
does just if all types of the method have expressions. Else the runs under all annotations are the
same, and blame the first type that has none. -/
theorem generate_under (enabled : s.isEnabled = true) (stays : ¬IsDropped s site.owner) :
    (∃ fault, ∀ verb, generate s (site.under verb) = .error fault) ∨
    ∃ g : Verb → Generation, (∀ verb, generate s (site.under verb) = .ok (g verb)) ∧
      (∀ verb, Emits s (site.under verb) (g verb) (site.ownerUnder verb)
          (site.method.annotated verb) ↔
        ∀ t ∈ site.method.types, (site.mapping s).IsMappable t) ∧
      ((∀ t ∈ site.method.types, (site.mapping s).IsMappable t) ∨
        ∃ t u, (site.mapping s).FailsFirst site.method.types t u ∧ ∀ verb verb',
          unmappable site.controller site.method.name (complaint u) ∈ (g verb).diagnostics ∧
            g verb = g verb') := by
  have registry (verb : Verb) : (site.under verb).registry = ⟨site.models.eraseDups⟩ := rfl
  cases fault : DataService.fault? s.moduleName ⟨site.models.eraseDups⟩ with
  | some fault' =>
    left
    refine ⟨fault', fun verb => ?_⟩
    rw [generate_eq, if_pos enabled, registry, fault]
  | none =>
    right
    have returns (verb : Verb) :
        generate s (site.under verb) = .ok (assembled s (site.under verb)) :=
      generate_of_no_fault enabled fault
    refine ⟨_, returns, fun verb => ?_, ?_⟩
    · exact emits_assembled_iff (mem_kept_under exposed stays verb)
        (mem_exposed_ownerUnder exposed verb) rfl
    · refine ((site.mapping s).all_mappable_or_failsFirst site.method.types).imp_right ?_
      rintro ⟨t, u, fails⟩
      refine ⟨t, u, fails, fun verb verb' => ⟨?_, ?_⟩⟩
      · exact mem_diagnostics_under exposed stays fails verb
      · have same := generate_under_eq exposed fails verb verb'
        rw [returns, returns] at same
        exact Except.ok.inj same

end Site

theorem generate_under_blamed :
    let user : HostType := { name := "User" }
    let stream : HostType := { name := "IO.Stream" }
    let files : HostType := { name := "List`1", arguments := [stream] }
    let attach : Method :=
      { name := "Attach"
        parameters := [⟨"user", user⟩, ⟨"files", files⟩, ⟨"at", { name := "Blob" }⟩] }
    let site : Site :=
      { models := ["User"], controller := "MailController", earlier := [{ name := "GetAll" }],
        method := attach, after := [{ name := "UserController" }] }
    let s : Settings := { basePath := "/api" }
    ∃ g : Verb → Generation, (∀ verb, generate s (site.under verb) = .ok (g verb)) ∧
      ∀ verb, ¬Emits s (site.under verb) (g verb) (site.ownerUnder verb) (attach.annotated verb) ∧
        ∃ d ∈ (g verb).diagnostics, d.kind = .unmappableType ∧ d.method = some "Attach" ∧
          d.message = "No TypeScript mapping for type 'IO.Stream'" := by
  intro user stream files attach site s
  have known : (site.mapping s).IsMappable user := ⟨_, Mapping.map_of_isModel (by decide +kernel)⟩
  have blamed : (site.mapping s).blamed? files = some stream := by decide +kernel
  have fails : (site.mapping s).FailsFirst attach.types files stream :=
    ⟨⟨[user], [{ name := "Blob" }, { name := "Void" }], rfl, by simpa using known⟩,
      Mapping.map_of_blamed blamed, blamed⟩
  have exposed : site.method.isExposedBy site.controller = true := by decide
  have stays : ¬IsDropped s site.owner := by decide
  obtain ⟨fault, failed⟩ | ⟨g, returns, emits, verdict⟩ := generate_under exposed rfl stays
  · have ok : generate s (site.under .get) = .ok (assembled s (site.under .get)) :=
      generate_of_no_fault rfl (by decide +kernel)
    rw [failed] at ok
    contradiction
  · refine ⟨g, returns, fun verb => ?_⟩
    obtain mappable | ⟨t, u, fails', reported⟩ := verdict
    · exact absurd mappable fails.not_all
    · have same : complaint u = complaint stream :=
        Option.some.inj (fails'.findSome?.symm.trans fails.findSome?)
      refine ⟨mt (emits verb).1 fails.not_all, _, (reported verb verb).1, rfl, rfl, ?_⟩
      rw [same]
      decide +kernel

end Generation

end ServiceClient

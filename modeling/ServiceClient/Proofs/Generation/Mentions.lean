import ServiceClient.Proofs.Generation.Marking
import ServiceClient.Proofs.Generation.Verbs

namespace ServiceClient

/-- Whether a type inside a type of an exposed method has the simple name. -/
def Snapshot.Mentions (snapshot : Snapshot) (name : String) : Prop :=
  ∃ c ∈ snapshot.controllers, ∃ method ∈ c.exposed, ∃ t ∈ method.types, ∃ u ∈ t.nodes,
    u.simpleName = name

instance (snapshot : Snapshot) : DecidablePred snapshot.Mentions :=
  fun _ => inferInstanceAs (Decidable (∃ c ∈ _, ∃ method ∈ _, ∃ t ∈ _, ∃ u ∈ _, _ = _))

def Snapshot.withModels (snapshot : Snapshot) (models : List String) : Snapshot :=
  { snapshot with models }

def Settings.withOverrides (s : Settings) (overrides : List (String × String)) : Settings :=
  { s with typeOverrides := overrides }

namespace Generation

open TypeScript

section Congruence

variable {m m' : Mapping} {s : Settings} {c : Controller} {method : Method}

theorem url_congr {ps : List Parameter} (h : ∀ p ∈ ps, m.map p.type = m'.map p.type)
    (base resource name : String) (verb : Verb) :
    Url.build m.map base resource name verb ps = Url.build m'.map base resource name verb ps := by
  have pairs : ps.mapM (Url.queryPair m.map) = ps.mapM (Url.queryPair m'.map) := by
    apply Outcome.mapM_congr
    intro p hp
    rw [Url.queryPair, Url.queryPair, h p hp]
  rw [Url.build, Url.build, pairs]

theorem entryBuild_congr (h : ∀ t ∈ method.types, m.map t = m'.map t) (verb : Verb) (url : Url) :
    Entry.build m.map method verb url = Entry.build m'.map method verb url := by
  have parts : method.parameters.mapM (Entry.signaturePart m.map) =
      method.parameters.mapM (Entry.signaturePart m'.map) := by
    apply Outcome.mapM_congr
    intro p hp
    rw [Entry.signaturePart, Entry.signaturePart, h p.type (Method.type_mem_types hp)]
  rw [Entry.build, Entry.build, parts, h method.returnType method.returnType_mem_types]

theorem methodOutcome_congr_types (h : ∀ t ∈ method.types, m.map t = m'.map t)
    (controller resource : String) :
    methodOutcome m controller resource method = methodOutcome m' controller resource method := by
  have parameters : ∀ p ∈ method.parameters, m.map p.type = m'.map p.type :=
    fun p hp => h p.type (Method.type_mem_types hp)
  have entries (verb : Verb) : plainEntry m resource method verb =
      plainEntry m' resource method verb := by
    simp only [plainEntry, url_congr parameters, entryBuild_congr h]
  simp only [methodOutcome, entries]

theorem alike_of_types (h : ∀ method ∈ c.exposed, ∀ t ∈ method.types, m.map t = m'.map t) :
    Alike m m' s c c := by
  refine ⟨rfl, rfl, ?_⟩
  apply List.map_congr_left
  intro method hmethod
  exact methodOutcome_congr_types (h method hmethod) _ _

end Congruence

variable {s : Settings} {snapshot : Snapshot} {name : String}

section Frame

variable {overrides : List (String × String)} {models : List String}
  (unnamed : ¬snapshot.Mentions name)
  (others : ∀ other, other ≠ name → overrides.lookup other = s.typeOverrides.lookup other)
  (known : ∀ other, other ≠ name → (other ∈ models ↔ other ∈ snapshot.models))
include unnamed others known

theorem map_eq_of_not_mentions {c : Controller} (hc : c ∈ snapshot.controllers) {method : Method}
    (hmethod : method ∈ c.exposed) {t : HostType} (ht : t ∈ method.types) :
    (mapping (s.withOverrides overrides) (snapshot.withModels models)).map t =
      (mapping s snapshot).map t := by
  apply Mapping.AgreeWithin.map
  intro u hu
  have other : u.simpleName ≠ name := by
    intro same
    exact unnamed ⟨c, hc, method, hmethod, t, ht, u, hu, same⟩
  constructor
  · exact others u.simpleName other
  · rw [Registry.isModel, Registry.isModel, Bool.eq_iff_iff]
    simp [mapping, Snapshot.registry, Snapshot.withModels, known u.simpleName other]

theorem assembled_of_not_mentions :
    assembled (s.withOverrides overrides) (snapshot.withModels models) =
      { assembled s snapshot with
        moduleText := textOf s (snapshot.withModels models).registry (groupings s snapshot) } := by
  have alike : ∀ c ∈ snapshot.controllers,
      Alike (mapping (s.withOverrides overrides) (snapshot.withModels models))
        (mapping s snapshot) s c c := by
    intro c hc
    apply alike_of_types
    exact fun method hmethod t ht => map_eq_of_not_mentions unnamed others known hc hmethod ht
  have written : groupings (s.withOverrides overrides) (snapshot.withModels models) =
      groupings s snapshot := by
    apply List.map_congr_left
    exact fun c hc => (alike c (mem_kept.1 hc).1).grouping
  have reported : (inNameOrder snapshot).flatMap (diagnosticsOf
      (mapping (s.withOverrides overrides) (snapshot.withModels models))
        (s.withOverrides overrides)) =
      (inNameOrder snapshot).flatMap (diagnosticsOf (mapping s snapshot) s) := by
    apply List.flatMap_congr
    exact fun c hc => (alike c ((inNameOrder_perm snapshot).mem_iff.1 hc)).diagnostics
  rw [assembled, assembled, written]
  exact congrArg (Generation.mk _ _ · _ _ _) reported

end Frame

def textImporting (s : Settings) (names rest : List String) : String :=
  String.join ((DataService.preamble ++ names.map (DataService.importLine s.modelImportPath)
    ++ rest).map (· ++ "\n"))

theorem textOf_eq_textImporting (s : Settings) (gs : List Grouping) :
    ∃ rest, ∀ registry, textOf s registry gs = textImporting s registry.sortedNames rest := by
  refine ⟨DataService.opening s.moduleName s.apiRelativePath
    ++ (Text.sortByName Grouping.resourceName gs).flatMap Grouping.lines
    ++ [""] ++ DataService.errorHandler ++ ["\x7d"], fun registry => ?_⟩
  simp only [textOf, DataService.lines, textImporting, List.append_assoc]

theorem fault_insert {registry registry' : Registry} {earlier later : List String}
    (sound : DataService.fault? s.moduleName registry = none)
    (identifier : isIdentifierLine name = true) (old : registry.sortedNames = earlier ++ later)
    (new : registry'.sortedNames = earlier ++ name :: later) :
    DataService.fault? s.moduleName registry' = none := by
  rw [DataService.fault?] at sound ⊢
  split at sound
  · contradiction
  · next named =>
    rw [Option.map_eq_none_iff, List.find?_eq_none, old] at sound
    rw [if_neg named, Option.map_eq_none_iff, List.find?_eq_none, new]
    intro other hother
    rcases List.mem_append.1 hother with before | after
    · exact sound other (List.mem_append_left _ before)
    · rcases List.mem_cons.1 after with rfl | after
      · simp [identifier]
      · exact sound other (List.mem_append_right _ after)

theorem exists_sortedNames_insert {before after : List String}
    (models : snapshot.models = before ++ after) (fresh : name ∉ snapshot.models) :
    ∃ earlier later, snapshot.registry.sortedNames = earlier ++ later ∧
      (snapshot.withModels (before ++ name :: after)).registry.sortedNames =
        earlier ++ name :: later := by
  apply Registry.exists_sortedNames_insert
  · simpa [Snapshot.registry] using fresh
  · intro other
    simp only [Snapshot.registry, Snapshot.withModels, models, List.mem_eraseDups, List.mem_append,
      List.mem_cons]
    tauto

/-- A name that no exposed method mentions adds its import where it becomes a model, and an override
for it changes nothing. -/
theorem generate_unmentioned {g : Generation} (enabled : s.isEnabled = true)
    (h : generate s snapshot = .ok g) (unnamed : ¬snapshot.Mentions name) :
    (∀ before after, snapshot.models = before ++ after → name ∉ snapshot.models →
      isIdentifierLine name = true →
      ∃ earlier later rest,
        earlier ++ later = snapshot.registry.sortedNames ∧
        g.moduleText = textImporting s (earlier ++ later) rest ∧
        let g' := { g with moduleText := textImporting s (earlier ++ name :: later) rest }
        generate s (snapshot.withModels (before ++ name :: after)) = .ok g' ∧
        generate s (snapshot.withModels (before ++ name :: after)).markModels = .ok g') ∧
    ∀ overrides, (∀ other, other ≠ name →
        overrides.lookup other = s.typeOverrides.lookup other) →
      generate (s.withOverrides overrides) snapshot = .ok g := by
  obtain rfl := eq_assembled_of_generate enabled h
  have sound := no_fault_of_generate enabled h
  constructor
  · intro before after models fresh identifier
    obtain ⟨earlier, later, old, new⟩ := exists_sortedNames_insert models fresh
    obtain ⟨rest, text⟩ := textOf_eq_textImporting s (groupings s snapshot)
    have known : ∀ other, other ≠ name →
        (other ∈ before ++ name :: after ↔ other ∈ snapshot.models) := by
      intro other differ
      simp [models, differ]
    have same := assembled_of_not_mentions (s := s) unnamed (fun _ _ => rfl) known
    rw [text, new] at same
    have returns : generate s (snapshot.withModels (before ++ name :: after)) =
        .ok { assembled s snapshot with
          moduleText := textImporting s (earlier ++ name :: later) rest } :=
      (generate_of_no_fault enabled (fault_insert sound identifier old new)).trans
        (congrArg Except.ok same)
    refine ⟨earlier, later, rest, old.symm, ?_, returns, ?_⟩
    · rw [← old, ← text, assembled]
    · rw [generate_markModels, returns]
  · intro overrides others
    have same : assembled (s.withOverrides overrides) snapshot = assembled s snapshot :=
      assembled_of_not_mentions unnamed others fun _ _ => Iff.rfl
    rw [← same]
    exact generate_of_no_fault (s := s.withOverrides overrides) enabled sound

theorem generate_unmentioned_account :
    let secret : Method :=
      { name := "GetAccount", returnType := { name := "Account" }, visibility := "private" }
    let users : Controller := { name := "UserController", methods := [
      { name := "GetAll", returnType := { name := "List", arguments := [{ name := "User" }] } },
      secret] }
    let s : Settings := { basePath := "/api" }
    let snapshot : Snapshot := ⟨["User"], [users]⟩
    ∃ g rest, generate s snapshot = .ok g ∧ g.moduleText = textImporting s ["User"] rest ∧
      (∃ earlier later, earlier ++ later = ["User"] ∧ generate s ⟨["User", "Account"], [users]⟩ =
        .ok { g with moduleText := textImporting s (earlier ++ "Account" :: later) rest }) ∧
      generate (s.withOverrides [("Account", "number")]) snapshot = .ok g := by
  intro secret users s snapshot
  have returns : generate s snapshot = .ok (assembled s snapshot) :=
    generate_of_no_fault rfl (by decide +kernel)
  have unnamed : ¬snapshot.Mentions "Account" := by decide +kernel
  obtain ⟨model, override⟩ := generate_unmentioned rfl returns unnamed
  obtain ⟨earlier, later, rest, names, text, more, _⟩ :=
    model ["User"] [] rfl (by decide) (by decide)
  have one : snapshot.registry.sortedNames = ["User"] := List.mergeSort_singleton _
  rw [one] at names
  rw [names] at text
  refine ⟨_, rest, returns, text, ⟨earlier, later, names, more⟩, override _ fun other differ => ?_⟩
  simp [s, List.lookup_cons, beq_false_of_ne differ]

end Generation

end ServiceClient

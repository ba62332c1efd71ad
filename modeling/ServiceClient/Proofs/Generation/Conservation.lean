import Mathlib.Data.List.Flatten
import Mathlib.Data.List.Perm.Basic
import ServiceClient.Proofs.Generation.Diagnostics
import ServiceClient.Proofs.Generation.Lines

/-!
No exposed method is lost. Of a controller that is not dropped, every one is written as an entry or
reported, and is counted once; a run counts and lists what comes of all controllers.
-/

namespace ServiceClient.Generation

open TypeScript

theorem methodsNamed_append (kind : Diagnostic.Kind) (ds ds' : List Diagnostic) :
    methodsNamed kind (ds ++ ds') = methodsNamed kind ds ++ methodsNamed kind ds' := by
  simp only [methodsNamed, List.filter_append, List.map_append]

theorem methodsNamed_flatMap (kind : Diagnostic.Kind) (as : List α) (f : α → List Diagnostic) :
    methodsNamed kind (as.flatMap f) = as.flatMap fun a => methodsNamed kind (f a) := by
  simp only [methodsNamed, List.filter_flatMap, List.map_flatMap]

theorem flatMap_ite {p : α → Prop} [DecidablePred p] {f : α → β} (as : List α) :
    (as.flatMap fun a => if p a then [f a] else []) = (as.filter p).map f := by
  induction as with
  | nil => rfl
  | cons a as ih =>
    by_cases h : p a
    · simp [h, ih]
    · simp [h, ih]

section Method

variable (m : Mapping) (controller resource : String) (method : Method)

theorem methodOutcome_conserves :
    (methodOutcome m controller resource method).entry.toList.map (some ·.sourceName)
      ++ methodsNamed .unresolvableVerb (methodOutcome m controller resource method).diagnostics
      ++ methodsNamed .unmappableType (methodOutcome m controller resource method).diagnostics
      = [some method.name] := by
  obtain ⟨_, same⟩ | ⟨_, _, _, _, same⟩ | ⟨_, e, _, hentry, same⟩ :=
    methodOutcome_cases m controller resource method
  · simp [same, methodsNamed, unresolvable]
  · simp [same, methodsNamed, unmappable]
  · have name : e.sourceName = method.name := (plainEntry_spec hentry).1
    rw [same]
    by_cases nothing : e.url.excess = []
    · simp [nothing, name, methodsNamed]
    · simp [nothing, name, methodsNamed, excess]

theorem methodsNamed_excess :
    methodsNamed .excessPostParameter (methodOutcome m controller resource method).diagnostics
      = if (methodOutcome m controller resource method).entry.isSome ∧
          method.resolvedVerb = some .post ∧ 2 ≤ method.parameters.length
        then [some method.name] else [] := by
  obtain ⟨hverb, same⟩ | ⟨verb, _, hverb, _, same⟩ | ⟨verb, e, hverb, hentry, same⟩ :=
    methodOutcome_cases m controller resource method
  · simp [same, methodsNamed, unresolvable]
  · simp [same, methodsNamed, unmappable]
  · have left : e.url.excess ≠ [] ↔ verb = .post ∧ 2 ≤ method.parameters.length := by
      rw [(plainEntry_spec hentry).2.2]
      by_cases post : verb = .post
      · rw [if_pos post, Ne, ← List.length_eq_zero_iff, List.length_tail, List.length_map]
        simp only [post, true_and]
        omega
      · simp [post]
    simp only [same, hverb, Option.some.injEq, Option.isSome_some, true_and, ← left]
    by_cases nothing : e.url.excess = []
    · simp [nothing, methodsNamed]
    · simp [nothing, methodsNamed, excess]

end Method

section Controller

variable {m : Mapping} {s : Settings} {c : Controller}

theorem methodsNamed_duplicates {kind : Diagnostic.Kind} (other : kind ≠ .duplicateMethodName) :
    methodsNamed kind (duplicates s.duplicatePolicy c) = [] := by
  rw [methodsNamed, List.map_eq_nil_iff, List.filter_eq_nil_iff]
  intro d hd
  simp [(mem_duplicates hd).1, other.symm]

theorem methodsNamed_diagnosticsOf {kind : Diagnostic.Kind} (other : kind ≠ .duplicateMethodName)
    (stays : ¬IsDropped s c) :
    methodsNamed kind (diagnosticsOf m s c) =
      (methodOutcomes m s c).flatMap fun o => methodsNamed kind o.diagnostics := by
  rw [diagnosticsOf, if_neg stays, methodsNamed_append, methodsNamed_duplicates other,
    List.nil_append, methodsNamed_flatMap]

theorem diagnosticsOf_conserves (stays : ¬IsDropped s c) :
    ((groupingOf m s c).entries.map (some ·.sourceName)
      ++ methodsNamed .unresolvableVerb (diagnosticsOf m s c)
      ++ methodsNamed .unmappableType (diagnosticsOf m s c)).Perm
      (c.exposed.map (some ·.name)) := by
  have entries : (groupingOf m s c).entries.map (some ·.sourceName) =
      (methodOutcomes m s c).flatMap fun o => o.entry.toList.map (some ·.sourceName) := by
    rw [groupingOf, List.filterMap_eq_flatMap_toList, List.map_flatMap]
  -- The outcome of each method adds its name to one of the three lists.
  have each : c.exposed.map (some ·.name) = (methodOutcomes m s c).flatMap fun o =>
      o.entry.toList.map (some ·.sourceName) ++ methodsNamed .unresolvableVerb o.diagnostics
        ++ methodsNamed .unmappableType o.diagnostics := by
    rw [methodOutcomes, List.flatMap_map, ← List.flatMap_pure_eq_map]
    simp only [methodOutcome_conserves]
    rfl
  rw [entries, methodsNamed_diagnosticsOf (by decide) stays,
    methodsNamed_diagnosticsOf (by decide) stays, each]
  exact ((List.flatMap_append_perm _ _ _).append_right _).trans (List.flatMap_append_perm _ _ _)

def emittedMethods (m : Mapping) (s : Settings) (c : Controller) : List Method :=
  c.exposed.filter fun method =>
    (methodOutcome m c.name (c.resourceName s.controllerSuffix) method).entry.isSome

theorem forall₂_entries (m : Mapping) (s : Settings) (c : Controller) :
    List.Forall₂ (fun method e => method.resolvedVerb = some e.verb ∧
        plainEntry m (c.resourceName s.controllerSuffix) method e.verb = .ok e)
      (emittedMethods m s c) (groupingOf m s c).entries := by
  rw [emittedMethods, groupingOf, methodOutcomes, List.filterMap_map]
  refine (Pointwise.filter_filterMap _ _).imp fun method e h => ?_
  obtain ⟨verb, hverb, hentry⟩ := plainEntry_of_methodOutcome h
  rw [(plainEntry_spec hentry).2.1]
  exact ⟨hverb, hentry⟩

theorem forall₂_sorted_entries (m : Mapping) (s : Settings) (c : Controller) :
    List.Forall₂ (fun method e => method.resolvedVerb = some e.verb ∧
        plainEntry m (c.resourceName s.controllerSuffix) method e.verb = .ok e)
      (Text.sortByName Method.name (emittedMethods m s c)) (groupingOf m s c).sorted.entries := by
  refine Text.forall₂_sortByName (forall₂_entries m s c) ?_
  rintro method e ⟨_, hentry⟩
  exact (plainEntry_spec hentry).1.symm

theorem isBlock_groupingOf (m : Mapping) (s : Settings) (c : Controller) :
    IsBlock m s c (Text.sortByName Method.name (emittedMethods m s c))
      (groupingOf m s c).lines := by
  rw [Grouping.lines_eq_written]
  exact isBlock_written rfl (forall₂_sorted_entries m s c)

theorem methodsNamed_excess_diagnosticsOf (stays : ¬IsDropped s c) :
    methodsNamed .excessPostParameter (diagnosticsOf m s c) =
      ((emittedMethods m s c).filter fun method =>
        method.resolvedVerb = some .post ∧ 2 ≤ method.parameters.length).map (some ·.name) := by
  rw [methodsNamed_diagnosticsOf (by decide) stays, methodOutcomes, List.flatMap_map,
    emittedMethods, List.filter_filter]
  simp only [methodsNamed_excess, flatMap_ite]
  congr 2
  funext method
  simp only [Bool.decide_and, Bool.decide_eq_true, Bool.and_comm]

end Controller

/-- What becomes of the exposed methods of a controller that is not dropped. The entries are those
of the `emitted` methods in the order of their names, every other method is reported, and no
emitted one is but for the parameters that it leaves over. -/
structure ControllerAccount (s : Settings) (snapshot : Snapshot) (ds : List Diagnostic)
    (c : Controller) (g : Grouping) (emitted : List Method) : Prop where
  name : g.resourceName = c.resourceName s.controllerSuffix
  exposed : emitted.Subperm c.exposed
  entries : List.Forall₂ (fun method e => method.resolvedVerb = some e.verb ∧
    plainEntry (mapping s snapshot) g.resourceName method e.verb = .ok e) emitted g.entries
  ordered : g.entries.Pairwise fun a b => Text.alphabetical a.sourceName b.sourceName = true
  conserved : (g.entries.map (some ·.sourceName) ++ methodsReported .unresolvableVerb c.name ds
    ++ methodsReported .unmappableType c.name ds).Perm (c.exposed.map (some ·.name))
  excess : (methodsReported .excessPostParameter c.name ds).Perm
    ((emitted.filter fun method =>
      method.resolvedVerb = some .post ∧ 2 ≤ method.parameters.length).map (some ·.name))

/-- A listing of the controllers that are not dropped, each with its grouping, as the module has
it. -/
structure Listed (s : Settings) (snapshot : Snapshot) (g : Generation)
    (listing : List (Controller × Grouping)) : Prop where
  controllers : (listing.map Prod.fst).Perm (snapshot.controllers.filter (¬IsDropped s ·))
  ordered : listing.Pairwise fun p q =>
    Text.alphabetical p.2.resourceName q.2.resourceName = true
  text : g.moduleText = String.join ((DataService.written s.moduleName s.modelImportPath
    s.apiRelativePath snapshot.registry (listing.map Prod.snd)).map (· ++ "\n"))
  emitted : g.summary.methodsEmitted = (listing.flatMap (·.2.entries)).length
  accounts : ∀ p ∈ listing, ∃ emitted,
    ControllerAccount s snapshot g.diagnostics p.1 p.2 emitted

/-- What a run says of a snapshot: the counts, the module and the diagnostics agree, and every entry
has its line in the text, in the block of its controller. -/
structure Account (s : Settings) (snapshot : Snapshot) (g : Generation) : Prop where
  processed : g.summary.methodsProcessed = snapshot.methodCount
  balanced : g.summary.methodsProcessed = g.summary.methodsEmitted + g.summary.methodsSkipped
  listed : ∃ listing, Listed s snapshot g listing
  shown : ∀ listing, Listed s snapshot g listing → ∃ blocks,
    List.Forall₂ (fun p block => ∃ emitted,
        ControllerAccount s snapshot g.diagnostics p.1 p.2 emitted ∧
          IsBlock (mapping s snapshot) s p.1 emitted block) listing blocks ∧
      g.moduleText = textWith s snapshot.models blocks.flatten
  dropped : ∀ c ∈ snapshot.controllers, IsDropped s c →
    ∀ d ∈ g.diagnostics, d.controller = c.name → d.kind = .duplicateMethodName
  known : ∀ d ∈ g.diagnostics, ∃ c ∈ snapshot.controllers, d.controller = c.name
  errors : g.hasErrors = true ↔ (∃ d ∈ g.diagnostics, d.kind = .unmappableType) ∨
    ∃ c ∈ snapshot.controllers, IsDropped s c

section Run

variable {s : Settings} {snapshot : Snapshot}

theorem mem_kept {c : Controller} :
    c ∈ kept s snapshot ↔ c ∈ snapshot.controllers ∧ ¬IsDropped s c := by
  rw [kept, List.mem_filter, (inNameOrder_perm snapshot).mem_iff, decide_eq_true_eq]

theorem controllerAccount (valid : snapshot.Valid) {c : Controller} (hc : c ∈ kept s snapshot) :
    ControllerAccount s snapshot (assembled s snapshot).diagnostics c
      (groupingOf (mapping s snapshot) s c).sorted
      (Text.sortByName Method.name (emittedMethods (mapping s snapshot) s c)) := by
  obtain ⟨hc, stays⟩ := mem_kept.1 hc
  have ordered := Text.sortByName_perm Method.name (emittedMethods (mapping s snapshot) s c)
  constructor
  · rfl
  · exact ordered.subperm.trans List.filter_sublist.subperm
  · exact forall₂_sorted_entries _ s c
  · exact Grouping.pairwise_sorted _
  · rw [methodsReported_assembled valid hc, methodsReported_assembled valid hc]
    have entries := (Grouping.entries_sorted_perm (groupingOf (mapping s snapshot) s c)).map
      (some ·.sourceName)
    exact ((entries.append_right _).append_right _).trans (diagnosticsOf_conserves stays)
  · rw [methodsReported_assembled valid hc, methodsNamed_excess_diagnosticsOf stays]
    exact ((ordered.filter _).map _).symm

def inResourceOrder (s : Settings) (snapshot : Snapshot) : List Controller :=
  Text.sortByName (·.resourceName s.controllerSuffix) (kept s snapshot)

theorem inResourceOrder_perm (s : Settings) (snapshot : Snapshot) :
    (inResourceOrder s snapshot).Perm (kept s snapshot) :=
  Text.sortByName_perm _ _

theorem mem_inResourceOrder {c : Controller} :
    c ∈ inResourceOrder s snapshot ↔ c ∈ snapshot.controllers ∧ ¬IsDropped s c := by
  rw [(inResourceOrder_perm s snapshot).mem_iff, mem_kept]

def linesOf (s : Settings) (models : List String) (c : Controller) : List String :=
  (groupingOf (mapping s ⟨models, []⟩) s c).lines

theorem text_assembled (s : Settings) (snapshot : Snapshot) :
    (assembled s snapshot).moduleText = textWith s snapshot.models
      ((inResourceOrder s snapshot).flatMap (linesOf s snapshot.models)) := by
  have lines : (Text.sortByName Grouping.resourceName (groupings s snapshot)).flatMap
      Grouping.lines = (inResourceOrder s snapshot).flatMap (linesOf s snapshot.models) := by
    rw [groupings, ← Text.map_sortByName fun _ _ => rfl, List.flatMap_map]
    rfl
  have registry : Snapshot.registry ⟨snapshot.models, []⟩ = snapshot.registry := rfl
  rw [assembled, textOf, DataService.lines, lines, textWith, registry]

def listing (s : Settings) (snapshot : Snapshot) : List (Controller × Grouping) :=
  (inResourceOrder s snapshot).map fun c => (c, (groupingOf (mapping s snapshot) s c).sorted)

theorem listing_fst (s : Settings) (snapshot : Snapshot) :
    (listing s snapshot).map Prod.fst = inResourceOrder s snapshot := by
  rw [listing, List.map_map]
  exact List.map_id _

theorem listing_snd (s : Settings) (snapshot : Snapshot) :
    (listing s snapshot).map Prod.snd =
      (Text.sortByName Grouping.resourceName (groupings s snapshot)).map Grouping.sorted := by
  rw [groupings, ← Text.map_sortByName fun _ _ => rfl, listing, inResourceOrder, List.map_map,
    List.map_map]
  rfl

theorem listing_entries_perm (s : Settings) (snapshot : Snapshot) :
    ((listing s snapshot).flatMap (·.2.entries)).Perm
      ((groupings s snapshot).flatMap (·.entries)) := by
  rw [listing, groupings, List.flatMap_map, List.flatMap_map]
  refine List.Perm.trans ?_ ((inResourceOrder_perm s snapshot).flatMap_right _)
  exact List.Perm.flatMap_left _ fun c _ => Grouping.entries_sorted_perm _

theorem emitted_le_processed (s : Settings) (snapshot : Snapshot) :
    ((groupings s snapshot).flatMap (·.entries)).length ≤ snapshot.methodCount := by
  let names (c : Controller) := c.exposed.map (·.name)
  have each : ((kept s snapshot).flatMap fun c =>
      (groupingOf (mapping s snapshot) s c).entries.map (·.sourceName)).Sublist
      ((kept s snapshot).flatMap names) :=
    List.Sublist.flatMap_right _ fun c _ => sourceNames_sublist _ s c
  have all : ((kept s snapshot).flatMap names).Sublist ((inNameOrder snapshot).flatMap names) :=
    List.filter_sublist.flatMap _
  have length := (each.trans all).length_le
  rw [← List.map_flatMap, ← List.map_flatMap, List.length_map, List.length_map,
    length_flatMap_inNameOrder] at length
  rw [groupings, List.flatMap_map]
  exact length

theorem listed (valid : snapshot.Valid) :
    Listed s snapshot (assembled s snapshot) (listing s snapshot) := by
  constructor
  · rw [listing_fst]
    exact (inResourceOrder_perm s snapshot).trans ((inNameOrder_perm snapshot).filter _)
  · exact List.pairwise_map.2 (Text.pairwise_sortByName _ _)
  · rw [listing_snd, ← DataService.lines_eq_written, assembled, textOf]
  · exact (listing_entries_perm s snapshot).length_eq.symm
  · intro p hp
    obtain ⟨c, hc, rfl⟩ := List.mem_map.1 hp
    exact ⟨_, controllerAccount valid ((inResourceOrder_perm s snapshot).mem_iff.1 hc)⟩

theorem isBlock_of_account {ds : List Diagnostic} {c : Controller} {g : Grouping}
    {emitted : List Method} (account : ControllerAccount s snapshot ds c g emitted) :
    IsBlock (mapping s snapshot) s c emitted g.written :=
  isBlock_written account.name account.entries

theorem exists_blocks {g : Generation} {listing : List (Controller × Grouping)}
    (h : Listed s snapshot g listing) : ∃ blocks,
      List.Forall₂ (fun p block => ∃ emitted,
        ControllerAccount s snapshot g.diagnostics p.1 p.2 emitted ∧
          IsBlock (mapping s snapshot) s p.1 emitted block) listing blocks ∧
      g.moduleText = textWith s snapshot.models blocks.flatten := by
  refine ⟨listing.map (·.2.written), ?_, ?_⟩
  · rw [List.forall₂_map_right_iff, List.forall₂_same]
    intro p hp
    obtain ⟨emitted, account⟩ := h.accounts p hp
    exact ⟨emitted, account, isBlock_of_account account⟩
  · have registry : Snapshot.registry ⟨snapshot.models, []⟩ = snapshot.registry := rfl
    rw [h.text, DataService.written, textWith, registry, List.flatMap_map, List.flatMap_def]

theorem kind_of_dropped (valid : snapshot.Valid) {c : Controller} (hc : c ∈ snapshot.controllers)
    (dropped : IsDropped s c) {d : Diagnostic} (hd : d ∈ (assembled s snapshot).diagnostics)
    (own : d.controller = c.name) : d.kind = .duplicateMethodName := by
  obtain ⟨c', hc', hd⟩ := mem_diagnostics_assembled.1 hd
  have name : c'.name = c.name := (controller_of_mem_diagnosticsOf hd).symm.trans own
  obtain rfl : c' = c := List.inj_on_of_nodup_map valid.controllers hc' hc name
  exact kind_of_isDropped dropped hd

/-- A run loses no exposed method. -/
theorem generate_accounts {g : Generation} (enabled : s.isEnabled = true) (valid : snapshot.Valid)
    (h : generate s snapshot = .ok g) : Account s snapshot g := by
  rw [eq_assembled_of_generate enabled h]
  constructor
  · rfl
  · exact (Nat.add_sub_cancel' (emitted_le_processed s snapshot)).symm
  · exact ⟨listing s snapshot, listed valid⟩
  · exact fun listing => exists_blocks
  · exact fun c hc dropped d hd own => kind_of_dropped valid hc dropped hd own
  · intro d hd
    obtain ⟨c, hc, hd⟩ := mem_diagnostics_assembled.1 hd
    exact ⟨c, hc, controller_of_mem_diagnosticsOf hd⟩
  · exact hasErrors_assembled

end Run

theorem generate_accounts_strict :
    let users : Controller := { name := "UserController", methods := [
      { name := "Rename" },
      { name := "GetAll", returnType := { name := "Func" } },
      { name := "PostUser"
        parameters := [⟨"user", { name := "User" }⟩, ⟨"note", { name := "String" }⟩] }] }
    let roles : Controller :=
      { name := "RoleController", methods := [{ name := "GetRole" }, { name := "getrole" }] }
    let s : Settings := { basePath := "/api" }
    let snapshot : Snapshot := ⟨["User"], [users, roles]⟩
    ∃ g, generate s snapshot = .ok g ∧ Account s snapshot g ∧ g.summary.methodsProcessed = 5 ∧
      g.hasErrors = true := by
  intro users roles s snapshot
  have valid : snapshot.Valid := ⟨by decide, by decide⟩
  have dropped : IsDropped s roles := by decide +kernel
  have written : generate s snapshot = .ok (assembled s snapshot) := by
    have fault : DataService.fault? s.moduleName snapshot.registry = none := by decide +kernel
    rw [generate_eq, fault]
    rfl
  have account := generate_accounts rfl valid written
  exact ⟨_, written, account, account.processed,
    account.errors.2 (.inr ⟨roles, by decide, dropped⟩)⟩

end ServiceClient.Generation

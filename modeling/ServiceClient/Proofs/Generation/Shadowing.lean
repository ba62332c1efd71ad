import ServiceClient.Proofs.Generation.Conservation
import ServiceClient.Proofs.Naming

namespace ServiceClient.Generation

open TypeScript

section Keys

variable {α β γ : Type} {as : List α} {key : α → γ} {name : α → β} {Apart : α → α → Prop}

theorem nodup_map_iff (distinct : (as.map key).Nodup)
    (apart : ∀ a ∈ as, ∀ b ∈ as, Apart a b → name a = name b → key a = key b) :
    (as.map name).Nodup ↔ ∀ a ∈ as, ∀ b ∈ as, ¬Apart a b → name a = name b → a = b := by
  constructor
  · intro names a ha b hb _ same
    exact List.inj_on_of_nodup_map names ha hb same
  · intro others
    refine List.Nodup.map_on (fun a ha b hb same => ?_) (List.Nodup.of_map key distinct)
    by_cases h : Apart a b
    · exact List.inj_on_of_nodup_map distinct ha hb (apart a ha b hb h same)
    · exact others a ha b hb h same

end Keys

theorem name_of_plainEntry {m : Mapping} {resource : String} {method : Method} {verb : Verb}
    {e : Entry} (h : plainEntry m resource method verb = .ok e) :
    e.name = Naming.camelize e.sourceName := by
  obtain ⟨_, _, made⟩ := exists_isMadeOf h
  rw [made.name, made.sourceName]

variable {s : Settings} {snapshot : Snapshot}

namespace ControllerAccount

variable {ds : List Diagnostic} {c : Controller} {g : Grouping} {emitted : List Method}
  (account : ControllerAccount s snapshot ds c g emitted)
include account

theorem name_eq {e : Entry} (he : e ∈ g.entries) : e.name = Naming.camelize e.sourceName := by
  obtain ⟨_, _, _, hentry⟩ := Pointwise.exists_of_mem account.entries he
  exact name_of_plainEntry hentry

theorem exists_method {e : Entry} (he : e ∈ g.entries) :
    ∃ method ∈ c.exposed, e.sourceName = method.name := by
  obtain ⟨method, hmethod, _, hentry⟩ := Pointwise.exists_of_mem account.entries he
  exact ⟨method, account.exposed.subset hmethod, (plainEntry_spec hentry).1⟩

theorem nodup_folded (distinct : (c.exposed.map fun method => Text.fold method.name).Nodup) :
    (g.entries.map fun e => Text.fold e.sourceName).Nodup := by
  have same : emitted.map (fun method => Text.fold method.name) =
      g.entries.map fun e => Text.fold e.sourceName :=
    Pointwise.map_eq account.entries fun method e h => by rw [(plainEntry_spec h.2).1]
  rw [← same]
  obtain ⟨part, perm, sublist⟩ := account.exposed
  exact (perm.map _).nodup_iff.1 (distinct.sublist (sublist.map _))

theorem nodup_names_iff (distinct : (c.exposed.map fun method => Text.fold method.name).Nodup) :
    (g.entries.map (·.name)).Nodup ↔ ∀ e ∈ g.entries, ∀ e' ∈ g.entries,
      ¬(Naming.IsWord e.sourceName ∧ Naming.IsWord e'.sourceName) → e.name = e'.name → e = e' := by
  refine nodup_map_iff (account.nodup_folded distinct) fun e he e' he' words same => ?_
  rw [account.name_eq he, account.name_eq he'] at same
  exact Naming.fold_eq_of_camelize_eq words.1 words.2 same

theorem names_perm (silent : ds = []) :
    (g.entries.map (·.name)).Perm (c.exposed.map fun method => Naming.camelize method.name) := by
  have sources : (g.entries.map (some ·.sourceName)).Perm (c.exposed.map (some ·.name)) := by
    simpa [silent, methodsReported, methodsNamed] using account.conserved
  rw [List.map_congr_left fun _ => account.name_eq]
  have camel := sources.filterMap (Option.map Naming.camelize)
  simpa [List.filterMap_map, Function.comp_def] using camel

end ControllerAccount

theorem kept_of_listed {g : Generation} {listing : List (Controller × Grouping)}
    (h : Listed s snapshot g listing) {p : Controller × Grouping} (hp : p ∈ listing) :
    p.1 ∈ snapshot.controllers ∧ ¬IsDropped s p.1 := by
  have kept := h.controllers.mem_iff.1 (List.mem_map_of_mem hp)
  rwa [List.mem_filter, decide_eq_true_eq] at kept

/-- In a strict run the properties of a grouping are different just if no two are the same of which
one is not made of a word. -/
theorem generate_unshadowed {g : Generation} (enabled : s.isEnabled = true)
    (valid : snapshot.Valid) (strict : s.duplicatePolicy = .strict)
    (h : generate s snapshot = .ok g) :
    (∃ listing, Listed s snapshot g listing) ∧
    ∀ listing, Listed s snapshot g listing → ∀ p ∈ listing,
      ((p.2.entries.map (·.name)).Nodup ↔ ∀ e ∈ p.2.entries, ∀ e' ∈ p.2.entries,
        ¬(Naming.IsWord e.sourceName ∧ Naming.IsWord e'.sourceName) → e.name = e'.name → e = e') := by
  obtain rfl := eq_assembled_of_generate enabled h
  refine ⟨⟨_, listed valid⟩, fun listing hlisting p hp => ?_⟩
  obtain ⟨emitted, account⟩ := hlisting.accounts p hp
  exact account.nodup_names_iff (nodup_of_strict strict (kept_of_listed hlisting hp).2)

theorem diagnostics_assembled_of_calls
    (distinct : ∀ c ∈ snapshot.controllers, (c.exposed.map fun m => Text.fold m.name).Nodup)
    (calls : ∀ c ∈ snapshot.controllers, ∀ method ∈ c.exposed,
      IsCall (mapping s snapshot) method) : (assembled s snapshot).diagnostics = [] := by
  refine List.eq_nil_iff_forall_not_mem.2 fun d hd => ?_
  obtain ⟨c, hc, hd⟩ := mem_diagnostics_assembled.1 hd
  rw [diagnosticsOf_of_nodup (distinct c hc)] at hd
  obtain ⟨outcome, houtcome, hd⟩ := List.mem_flatMap.1 hd
  obtain ⟨method, hmethod, rfl⟩ := List.mem_map.1 houtcome
  rw [diagnostics_of_isCall (calls c hc method hmethod)] at hd
  contradiction

theorem generate_unshadowed_words :
    let users : Controller := { name := "UserController", methods := [
      { name := "GetAll" }, { name := "GetURL" }, { name := "PostUser" }] }
    let s : Settings := { basePath := "/api" }
    let snapshot : Snapshot := ⟨[], [users]⟩
    ∃ g listing, generate s snapshot = .ok g ∧ Listed s snapshot g listing ∧
      ∀ p ∈ listing, (p.2.entries.map (·.name)).Nodup := by
  intro users s snapshot
  have valid : snapshot.Valid := ⟨by decide, by decide⟩
  have returns : generate s snapshot = .ok (assembled s snapshot) :=
    generate_of_no_fault rfl (by decide +kernel)
  obtain ⟨⟨listing, listed⟩, each⟩ := generate_unshadowed rfl valid rfl returns
  refine ⟨_, listing, returns, listed, fun p hp => (each listing listed p hp).2 ?_⟩
  obtain ⟨emitted, account⟩ := listed.accounts p hp
  have words : ∀ method ∈ p.1.exposed, Naming.IsWord method.name := by
    rw [List.mem_singleton.1 (kept_of_listed listed hp).1]
    decide +kernel
  have word (e : Entry) (he : e ∈ p.2.entries) : Naming.IsWord e.sourceName := by
    obtain ⟨method, hmethod, name⟩ := account.exists_method he
    exact name ▸ words method hmethod
  intro e he e' he' unlike
  exact absurd ⟨word e he, word e' he'⟩ unlike

/-- Two names that differ by a separator: both methods become one property, and nothing is
reported. -/
theorem generate_shadowed :
    let users : Controller := { name := "UserController", methods := [
      { name := "GetAll" }, { name := "Get_All" }] }
    let s : Settings := { basePath := "/api" }
    let snapshot : Snapshot := ⟨[], [users]⟩
    snapshot.Valid ∧ ∃ g, generate s snapshot = .ok g ∧ g.diagnostics = [] ∧
      (∃ listing, Listed s snapshot g listing) ∧
      ∀ listing, Listed s snapshot g listing →
        ∃ p ∈ listing, p.2.entries.map (·.name) = ["getAll", "getAll"] := by
  intro users s snapshot
  have valid : snapshot.Valid := ⟨by decide, by decide⟩
  have distinct : ∀ c ∈ snapshot.controllers,
      (c.exposed.map fun m => Text.fold m.name).Nodup := by decide +kernel
  have calls : ∀ c ∈ snapshot.controllers, ∀ method ∈ c.exposed,
      IsCall (mapping s snapshot) method := by
    have void : ∃ mapped, (mapping s snapshot).map { name := "Void" } = .ok mapped := by
      rw [Mapping.map_eq]
      exact ⟨_, rfl⟩
    have each : ∀ c ∈ snapshot.controllers, ∀ method ∈ c.exposed,
        method.resolvedVerb = some .get ∧ method.parameters = [] ∧
          method.returnType = { name := "Void" } := by
      decide +kernel
    intro c hc method hmethod
    obtain ⟨suggested, plain, type⟩ := each c hc method hmethod
    exact ⟨⟨_, suggested⟩, plain, type ▸ void⟩
  have silent := diagnostics_assembled_of_calls distinct calls
  refine ⟨valid, _, generate_of_no_fault rfl (by decide +kernel), silent, ⟨_, listed valid⟩,
    fun listing hlisting => ?_⟩
  have member : users ∈ listing.map Prod.fst :=
    hlisting.controllers.mem_iff.2 (by decide +kernel)
  obtain ⟨p, hp, own⟩ := List.mem_map.1 member
  obtain ⟨emitted, account⟩ := hlisting.accounts p hp
  have names := account.names_perm silent
  have camel : (p.1.exposed.map fun method => Naming.camelize method.name) =
      List.replicate 2 "getAll" := by
    rw [own]
    decide +kernel
  rw [camel] at names
  exact ⟨p, hp, List.perm_replicate.1 names⟩

end ServiceClient.Generation

import ServiceClient.Proofs.Generation.Verbs
import ServiceClient.Proofs.Text.Split
import ServiceClient.Proofs.TypeScript.Translation

namespace ServiceClient

def Parameter.IsTellable (p : Parameter) : Prop := ∀ c ∈ ['&', '=', ':', ','], c ∉ p.name.toList

instance : DecidablePred Parameter.IsTellable := fun _ => inferInstanceAs (Decidable (∀ _ ∈ _, _))

def Url.HasQuery (u : Url) : Prop := ∃ query ≠ "", u.render = u.path ++ "?" ++ query

structure Entry.Tells (e : Entry) (names : List String) : Prop where
  signature : (Text.listed ", " e.parameters).map (Text.before ": ") = names
  query : e.verb ≠ .post → (Text.listed "&" e.url.query).map (Text.before "=") = names ∧
    e.url.body = none ∧ e.url.excess = [] ∧ (e.url.HasQuery ↔ names ≠ [])
  body : e.verb = .post → e.url.query = "" ∧ e.url.body.toList ++ e.url.excess = names

open TypeScript Outcome

theorem Url.hasQuery_iff (u : Url) : u.HasQuery ↔ u.query ≠ "" := by
  rw [HasQuery, render]
  constructor
  · rintro ⟨query, filled, same⟩ empty
    rw [if_pos empty, String.append_assoc, eq_comm, String.append_eq_left_iff] at same
    simp at same
  · intro filled
    exact ⟨u.query, filled, if_neg filled⟩

section Item

variable {p : Parameter} (tellable : p.IsTellable)
include tellable

theorem item_of_queryPair {f : HostType → Except Unmappable Mapped} {pair : String}
    (h : Url.queryPair f p = .ok pair) : Text.Item '&' "=" p.name pair := by
  obtain ⟨mapped, _, ⟨⟩⟩ := bind_eq_ok_iff.1 h
  have name : '&' ∉ p.name.toList := tellable _ (by decide)
  constructor
  · simp
  · rw [Url.queryValue]
    split_ifs <;> simp [Url.placeholder, name]
  · exact Text.before_append rfl _ (tellable _ (by decide))

theorem item_of_signaturePart {r : Registry} {part : String} (named : NamesModels r p.type)
    (h : Entry.signaturePart (Mapping.mk r []).map p = .ok part) :
    Text.Item ',' ": " p.name part := by
  obtain ⟨mapped, hmapped, ⟨⟩⟩ := bind_eq_ok_iff.1 h
  obtain ⟨e, text, _⟩ := exists_expression named hmapped
  have expression : ',' ∉ mapped.expression.toList := text ▸ e.comma_not_mem_text
  have name : ',' ∉ p.name.toList := tellable _ (by decide)
  constructor
  · simp
  · simp [name, expression]
  · exact Text.before_append rfl _ (tellable _ (by decide))

end Item

namespace Generation

section Entry

variable {r : Registry} {resource : String} {method : Method} {verb : Verb} {e : Entry}

theorem tells_of_plainEntry
    (told : ∀ p ∈ method.parameters, p.IsTellable ∧ NamesModels r p.type)
    (h : plainEntry ⟨r, []⟩ resource method verb = .ok e) :
    e.Tells (method.parameters.map (·.name)) := by
  obtain ⟨parts, _, made⟩ := exists_isMadeOf h
  have signature : List.Forall₂ (Text.Item ',' ": ") (method.parameters.map (·.name)) parts :=
    List.forall₂_map_left_iff.2 <| Pointwise.of_mapM made.signature fun p hp _ =>
      item_of_signaturePart (told p hp).1 (told p hp).2
  constructor
  · rw [made.parameters]
    exact Text.names_of_items rfl signature
  · intro other
    obtain ⟨post, _⟩ | ⟨_, body, excess, pairs, hpairs, query⟩ := build_cases made.url
    · exact absurd (made.verb.trans post) other
    · have items : List.Forall₂ (Text.Item '&' "=") (method.parameters.map (·.name)) pairs :=
        List.forall₂_map_left_iff.2 <| Pointwise.of_mapM hpairs fun p hp _ =>
          item_of_queryPair (told p hp).1
      rw [Url.hasQuery_iff, query]
      exact ⟨Text.names_of_items rfl items, body, excess, Text.intercalate_ne_empty_iff rfl items⟩
  · intro post
    obtain ⟨_, query, body, excess⟩ | ⟨other, _⟩ := build_cases made.url
    · refine ⟨query, ?_⟩
      rw [body, excess]
      cases method.parameters with
      | nil => rfl
      | cons p ps => rfl
    · exact absurd (made.verb.symm.trans post) other

end Entry

variable {s : Settings} {snapshot : Snapshot}

/-- Without overrides, every emitted method has an entry of which the signature tells the names of
all parameters, and the query, or the body with the parameters that are left over, as well. -/
theorem generate_tells {g : Generation} (enabled : s.isEnabled = true)
    (free : s.typeOverrides = []) (h : generate s snapshot = .ok g) :
    g.moduleText = textOf s snapshot.registry (groupings s snapshot) ∧
    ∀ c ∈ kept s snapshot, List.Forall₂
      (fun method e => method.resolvedVerb = some e.verb ∧
        ((∀ p ∈ method.parameters, p.IsTellable ∧ NamesModels snapshot.registry p.type) →
          e.Tells (method.parameters.map (·.name))))
      (emittedMethods (mapping s snapshot) s c) (groupingOf (mapping s snapshot) s c).entries := by
  obtain rfl := eq_assembled_of_generate enabled h
  refine ⟨by rw [assembled], fun c _ => ?_⟩
  refine (forall₂_entries (mapping s snapshot) s c).imp ?_
  rintro method e ⟨known, hentry⟩
  rw [mapping, free] at hentry
  exact ⟨known, fun told => tells_of_plainEntry told hentry⟩

theorem generate_tells_pages :
    let user : HostType := { name := "User" }
    let users : HostType := { name := "List`1", arguments := [user] }
    let pages : HostType := { name := "Dictionary`2", arguments := [{ name := "String" }, users] }
    let date : HostType := { name := "Nullable", arguments := [{ name := "DateTime" }] }
    let query : Method := { name := "GetLogs", parameters := [⟨"from", date⟩, ⟨"pages", pages⟩] }
    let body : Method :=
      { name := "PostLog", parameters := [⟨"user", user⟩, ⟨"note", { name := "String" }⟩] }
    let c : Controller := { name := "LogController", methods := [query, body] }
    let s : Settings := { basePath := "/api" }
    let snapshot : Snapshot := ⟨["User"], [c]⟩
    let entries := (groupingOf (mapping s snapshot) s c).entries
    ∃ g, generate s snapshot = .ok g ∧
      g.moduleText = textOf s snapshot.registry (groupings s snapshot) ∧
      (∃ e ∈ entries, e.verb = .get ∧ e.Tells ["from", "pages"]) ∧
      ∃ e ∈ entries, e.verb = .post ∧ e.Tells ["user", "note"] := by
  intro user users pages date query body c s snapshot entries
  have returns : generate s snapshot = .ok (assembled s snapshot) :=
    generate_of_no_fault rfl (by decide +kernel)
  obtain ⟨text, told⟩ := generate_tells rfl rfl returns
  have each := (told c (mem_kept.2 ⟨List.mem_singleton_self c, by decide⟩)).flip
  have tellable : ∀ method ∈ [query, body], ∀ p ∈ method.parameters, p.IsTellable := by
    simp [query, body, Parameter.IsTellable]
  have named : ∀ method ∈ [query, body], ∀ p ∈ method.parameters,
      NamesModels snapshot.registry p.type := by
    decide +kernel
  have known : ∀ method ∈ [query, body], ∀ t ∈ method.types,
      (mapping s snapshot).blamed? t = none := by
    decide +kernel
  have entry (method : Method) {verb : Verb} (hmethod : method ∈ [query, body])
      (suggested : method.resolvedVerb = some verb) :
      ∃ e ∈ entries, e.verb = verb ∧ e.Tells (method.parameters.map (·.name)) := by
    have emitted : method ∈ emittedMethods (mapping s snapshot) s c :=
      (mem_emittedMethods_iff suggested).2
        ⟨hmethod, fun t ht => Mapping.isMappable_iff_blamed?.2 (known method hmethod t ht)⟩
    obtain ⟨e, he, same, tells⟩ := Pointwise.exists_of_mem each emitted
    refine ⟨e, he, Option.some.inj (same.symm.trans suggested), tells fun p hp => ?_⟩
    exact ⟨tellable method hmethod p hp, named method hmethod p hp⟩
  refine ⟨_, returns, text, ?_, ?_⟩
  · exact entry query (by simp) (by decide)
  · exact entry body (by simp) (by decide)

end Generation

end ServiceClient

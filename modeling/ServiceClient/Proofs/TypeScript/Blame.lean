import ServiceClient.Proofs.TypeScript.Memory
import ServiceClient.Proofs.TypeScript.Rule

namespace ServiceClient.TypeScript

def complaint (t : HostType) : Unmappable := ⟨t.toNotation, arityFault? t.simpleName⟩

namespace Mapping

variable {m : Mapping} {t : HostType} {r : Rule}

def IsKnown (m : Mapping) (t : HostType) : Prop :=
  m.IsOrdinary t ∧ t.simpleName ∈ knownNames t.arguments.length

instance (m : Mapping) : DecidablePred m.IsKnown := fun _ => inferInstanceAs (Decidable (_ ∧ _))

mutual

/-- A type and the types inside it that its expression comes to, a dictionary's key before the
value. Overrides, models and types without expression are not looked into. -/
def visited (m : Mapping) : HostType → List HostType
  | ⟨name, arguments, isModel⟩ =>
    ⟨name, arguments, isModel⟩ ::
      if m.IsKnown ⟨name, arguments, isModel⟩ then m.visitedAll arguments else []

def visitedAll (m : Mapping) : List HostType → List HostType
  | [] => []
  | a :: as => m.visited a ++ m.visitedAll as

end

theorem visitedAll_eq_flatMap (as : List HostType) : m.visitedAll as = as.flatMap m.visited := by
  induction as with
  | nil => rw [visitedAll, List.flatMap_nil]
  | cons a as ih => rw [visitedAll, List.flatMap_cons, ih]

theorem visited_eq (m : Mapping) (t : HostType) :
    m.visited t = t :: if m.IsKnown t then t.arguments.flatMap m.visited else [] := by
  rw [← visitedAll_eq_flatMap]
  cases t
  rw [visited]

theorem visited_eq_contents (m : Mapping) (t : HostType) :
    m.visited t = t :: (m.rule t).contents.flatMap m.visited := by
  obtain ⟨r, h⟩ := m.exists_fallsUnder t
  rw [visited_eq, rule_of_fallsUnder h]
  cases h with
  | override known => simp [IsKnown, IsOrdinary, known, Rule.contents]
  | model known => simp [IsKnown, IsOrdinary, known.2, Rule.contents]
  | wrapper ordinary name arguments =>
    simp [IsKnown, ordinary, arguments, knownNames, name, Rule.contents]
  | date ordinary name arguments => simp [arguments, Rule.contents]
  | primitive ordinary name arguments => simp [arguments, Rule.contents]
  | sequence ordinary name arguments =>
    simp [IsKnown, ordinary, arguments, knownNames, name, Rule.contents]
  | dictionary ordinary name arguments =>
    simp [IsKnown, ordinary, arguments, knownNames, name, Rule.contents]
  | unmappable unknown => simp [IsKnown, unknown.2, Rule.contents]

def blamed? (m : Mapping) (t : HostType) : Option HostType :=
  (m.visited t).find? (m.IsUnmappable ·)

theorem blamed?_of_isUnmappable (h : m.IsUnmappable t) : m.blamed? t = some t := by
  rw [blamed?, visited_eq_contents]
  exact List.find?_cons_of_pos (by simpa using h)

theorem blamed?_of_rule (hrule : m.rule t = r) (known : ∀ fault, r ≠ .unmappable fault) :
    m.blamed? t = (r.contents.flatMap m.visited).find? (m.IsUnmappable ·) := by
  have mappable : ¬m.IsUnmappable t := by
    rw [isUnmappable_iff, hrule]
    rintro ⟨fault, h⟩
    exact known fault h
  rw [blamed?, visited_eq_contents, hrule]
  exact List.find?_cons_of_neg (by simpa using mappable)

theorem error?_map (m : Mapping) (t : HostType) :
    Outcome.error? (m.map t) = (m.blamed? t).map complaint := by
  induction t using map.induct m with
  | case1 t mapped hrule =>
    rw [map_eq, hrule, blamed?_of_rule hrule (by simp)]
    rfl
  | case2 t content hrule ih =>
    rw [map_eq, hrule, blamed?_of_rule hrule (by simp), Rule.contents, List.flatMap_singleton]
    exact ih
  | case3 t element hrule ih =>
    rw [map_eq, hrule, blamed?_of_rule hrule (by simp), Rule.contents, List.flatMap_singleton]
    exact Outcome.error?_map.trans ih
  | case4 t key value hrule ihKey ihValue =>
    rw [map_eq, hrule, blamed?_of_rule hrule (by simp), Rule.contents, List.flatMap_cons,
      List.flatMap_singleton, List.find?_append, Option.map_or]
    calc
      _ = (Outcome.error? (m.map key)).or (Outcome.error? (m.map value)) :=
        Outcome.error?_bind_of_eq fun _ _ => Outcome.error?_map
      _ = _ := by rw [ihKey, ihValue, blamed?, blamed?]
  | case5 t fault hrule =>
    have unknown : m.IsUnmappable t := isUnmappable_iff.2 ⟨fault, hrule⟩
    rw [map_eq, rule_of_isUnmappable unknown, blamed?_of_isUnmappable unknown]
    rfl

section Several

open Outcome

variable {ts : List HostType} {u : HostType}

def IsMappable (m : Mapping) (t : HostType) : Prop := ∃ mapped, m.map t = .ok mapped

/-- Whether `t` is the first of some types that has no expression, and `u` is to blame for that. -/
structure FailsFirst (m : Mapping) (ts : List HostType) (t u : HostType) : Prop where
  first : ∃ before after, ts = before ++ t :: after ∧ ∀ v ∈ before, m.IsMappable v
  fails : m.map t = .error (complaint u)
  blamed : m.blamed? t = some u

theorem isMappable_iff_error? : m.IsMappable t ↔ error? (m.map t) = none :=
  error?_eq_none_iff.symm

theorem isMappable_iff_blamed? : m.IsMappable t ↔ m.blamed? t = none := by
  rw [isMappable_iff_error?, error?_map, Option.map_eq_none_iff]

theorem map_of_blamed (blamed : m.blamed? t = some u) : m.map t = .error (complaint u) := by
  rw [← error?_eq_some_iff, error?_map, blamed]
  rfl

theorem findSome?_eq_none_iff :
    (ts.findSome? fun t => error? (m.map t)) = none ↔ ∀ t ∈ ts, m.IsMappable t := by
  simp only [List.findSome?_eq_none_iff, isMappable_iff_error?]

theorem FailsFirst.findSome? (h : m.FailsFirst ts t u) :
    (ts.findSome? fun t => error? (m.map t)) = some (complaint u) := by
  obtain ⟨before, after, order, known⟩ := h.first
  rw [List.findSome?_eq_some_iff]
  refine ⟨before, t, after, order, error?_eq_some_iff.2 h.fails, ?_⟩
  intro v hv
  exact isMappable_iff_error?.1 (known v hv)

theorem FailsFirst.not_all (h : m.FailsFirst ts t u) : ¬∀ t ∈ ts, m.IsMappable t := by
  rw [← findSome?_eq_none_iff, h.findSome?]
  exact Option.some_ne_none _

theorem all_mappable_or_failsFirst (m : Mapping) (ts : List HostType) :
    (∀ t ∈ ts, m.IsMappable t) ∨ ∃ t u, m.FailsFirst ts t u := by
  cases found : ts.findSome? fun t => error? (m.map t) with
  | none => exact .inl (findSome?_eq_none_iff.1 found)
  | some e =>
    right
    obtain ⟨before, t, after, order, fails, known⟩ := List.findSome?_eq_some_iff.1 found
    obtain ⟨u, blamed, _⟩ := Option.map_eq_some_iff.1 ((error?_map m t).symm.trans fails)
    refine ⟨t, u, ⟨before, after, order, ?_⟩, map_of_blamed blamed, blamed⟩
    intro v hv
    exact isMappable_iff_error?.2 (known v hv)

end Several

/-- What is said of a type after others were mapped with the same memory. -/
def mapAfter (m : Mapping) (earlier : List HostType) (t : HostType) : Except Unmappable Mapped :=
  ((m.mapRemembering t).run.run ((m.mapEach earlier).run []).2).1

theorem mapAfter_eq (m : Mapping) (earlier : List HostType) (t : HostType) :
    m.mapAfter earlier t = m.map t := by
  have faithful := (steady_mapEach earlier [] (Memo.faithful_nil m)).2
  exact (steady_mapRemembering t _ faithful).1

/-- A type has no expression just if some visited type has none by itself, whatever was mapped
before, and the error is about the first one of these. -/
theorem mapAfter_fails_on_first (m : Mapping) (earlier : List HostType) (t : HostType) :
    ((∃ e, m.mapAfter earlier t = .error e) ↔ ∃ u ∈ m.visited t, m.IsUnmappable u) ∧
      ∀ e, m.mapAfter earlier t = .error e → ∃ before u after,
        m.visited t = before ++ u :: after ∧ (∀ v ∈ before, ¬m.IsUnmappable v) ∧
          m.IsUnmappable u ∧ e.typeName = u.toNotation ∧ e.fault = arityFault? u.simpleName := by
  have failure (e : Unmappable) :
      m.mapAfter earlier t = .error e ↔ ∃ u, m.blamed? t = some u ∧ complaint u = e := by
    rw [mapAfter_eq, ← Outcome.error?_eq_some_iff, error?_map, Option.map_eq_some_iff]
  constructor
  · calc
      (∃ e, m.mapAfter earlier t = .error e) ↔ (m.blamed? t).isSome := by
        simp [failure, Option.isSome_iff_exists]
      _ ↔ ∃ u ∈ m.visited t, m.IsUnmappable u := by
        simp [blamed?, List.find?_isSome]
  · intro e h
    obtain ⟨u, first, rfl⟩ := (failure e).1 h
    obtain ⟨unknown, before, after, order, earlierKnown⟩ := List.find?_eq_some_iff_append.1 first
    refine ⟨before, u, after, order, by simpa using earlierKnown, by simpa using unknown, rfl, ?_⟩
    simp only [complaint]

theorem mapAfter_fails_on_first_key :
    let m : Mapping := { registry := ⟨["User"]⟩ }
    let page : HostType := { name := "Paging.Page`1", arguments := [{ name := "Stream" }] }
    let key : HostType := { name := "List", arguments := [page] }
    let t : HostType := { name := "Dictionary", arguments := [key, { name := "Stream" }] }
    ∃ e, m.mapAfter [{ name := "User" }, t] t = .error e ∧
      e.typeName = "Paging.Page`1<Stream>" := by
  intro m page key t
  obtain ⟨fails, first⟩ := mapAfter_fails_on_first m [{ name := "User" }, t] t
  obtain ⟨e, he⟩ := fails.2 ⟨page, by decide +kernel, by decide +kernel⟩
  obtain ⟨before, u, after, order, known, unknown, name, -⟩ := first e he
  have blamed : m.blamed? t = some u := List.find?_eq_some_iff_append.2
    ⟨by simpa using unknown, before, after, order, by simpa using known⟩
  have page_blamed : m.blamed? t = some page := by decide +kernel
  cases blamed.symm.trans page_blamed
  exact ⟨e, he, name.trans (by decide +kernel)⟩

end Mapping

end ServiceClient.TypeScript

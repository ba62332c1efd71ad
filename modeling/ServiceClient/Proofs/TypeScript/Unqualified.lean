import ServiceClient.Proofs.Snapshot.Unqualified
import ServiceClient.Proofs.TypeScript.Rule

namespace ServiceClient

namespace TypeScript

inductive Rule.Related (R : HostType → HostType → Prop) : Rule → Rule → Prop
  | atom {mapped : Mapped} : Related R (.atom mapped) (.atom mapped)
  | wrapper {content content' : HostType} (inside : R content content') :
    Related R (.wrapper content) (.wrapper content')
  | sequence {element element' : HostType} (inside : R element element') :
    Related R (.sequence element) (.sequence element')
  | dictionary {key key' value value' : HostType} (first : R key key') (second : R value value') :
    Related R (.dictionary key value) (.dictionary key' value')
  | unmappable {fault : Option ArityFault} : Related R (.unmappable fault) (.unmappable fault)

theorem Rule.Related.imp {R S : HostType → HostType → Prop} {r r' : Rule} (h : r.Related R r')
    (step : ∀ a ∈ r.contents, ∀ a', R a a' → S a a') : r.Related S r' := by
  cases h with
  | atom => exact .atom
  | wrapper inside => exact .wrapper (step _ (by simp [contents]) _ inside)
  | sequence inside => exact .sequence (step _ (by simp [contents]) _ inside)
  | dictionary first second =>
    exact .dictionary (step _ (by simp [contents]) _ first) (step _ (by simp [contents]) _ second)
  | unmappable => exact .unmappable

namespace Mapping

variable {m : Mapping} {t t' : HostType}

def MapsAlike (m : Mapping) (t t' : HostType) : Prop := (m.map t).toOption = (m.map t').toOption

theorem mapsAlike_of_related (h : (m.rule t).Related m.MapsAlike (m.rule t')) :
    m.MapsAlike t t' := by
  rw [MapsAlike, map_eq m t, map_eq m t']
  generalize m.rule t = r at h ⊢
  generalize m.rule t' = r' at h ⊢
  cases h with
  | atom => rfl
  | wrapper inside => exact inside
  | sequence inside => exact Outcome.toOption_bind_congr inside fun _ => rfl
  | dictionary first second =>
    exact Outcome.toOption_bind_congr first fun _ =>
      Outcome.toOption_bind_congr second fun _ => rfl
  | unmappable => rfl

section Related

variable {R : HostType → HostType → Prop} (name : t.simpleName = t'.simpleName)
  (model : m.registry.isModel t = m.registry.isModel t')
  (inside : List.Forall₂ R t.arguments t'.arguments)
include name model inside

theorem FallsUnder.related {r : Rule} (falls : m.FallsUnder t r) :
    ∃ r', m.FallsUnder t' r' ∧ r.Related R r' := by
  have ordinary' : m.IsOrdinary t → m.IsOrdinary t' := by
    rw [IsOrdinary, IsOrdinary, name, model]
    exact id
  cases falls with
  | override known =>
    rw [name] at known
    exact ⟨_, .override known, .atom⟩
  | model known =>
    rw [IsModel, name, model] at known
    rw [name]
    exact ⟨_, .model known, .atom⟩
  | wrapper ordinary known arguments =>
    rw [arguments, List.forall₂_cons_left_iff] at inside
    obtain ⟨content', _, content, last, arguments'⟩ := inside
    obtain rfl := List.forall₂_nil_left_iff.1 last
    exact ⟨_, .wrapper (ordinary' ordinary) (name ▸ known) arguments', .wrapper content⟩
  | date ordinary known arguments =>
    rw [arguments, List.forall₂_nil_left_iff] at inside
    exact ⟨_, .date (ordinary' ordinary) (name ▸ known) inside, .atom⟩
  | primitive ordinary known arguments =>
    rw [arguments, List.forall₂_nil_left_iff] at inside
    exact ⟨_, .primitive (ordinary' ordinary) (name ▸ known) inside, .atom⟩
  | sequence ordinary known arguments =>
    rw [arguments, List.forall₂_cons_left_iff] at inside
    obtain ⟨element', _, element, last, arguments'⟩ := inside
    obtain rfl := List.forall₂_nil_left_iff.1 last
    exact ⟨_, .sequence (ordinary' ordinary) (name ▸ known) arguments', .sequence element⟩
  | dictionary ordinary known arguments =>
    rw [arguments, List.forall₂_cons_left_iff] at inside
    obtain ⟨key', _, key, rest, arguments'⟩ := inside
    obtain ⟨value', _, value, last, rfl⟩ := List.forall₂_cons_left_iff.1 rest
    obtain rfl := List.forall₂_nil_left_iff.1 last
    exact ⟨_, .dictionary (ordinary' ordinary) (name ▸ known) arguments', .dictionary key value⟩
  | unmappable unknown =>
    have unknown' : m.IsUnmappable t' := by
      refine ⟨ordinary' unknown.1, ?_⟩
      rw [← name, ← inside.length_eq]
      exact unknown.2
    rw [name]
    exact ⟨_, .unmappable unknown', .unmappable⟩

theorem related_rule : (m.rule t).Related R (m.rule t') := by
  obtain ⟨r, falls⟩ := m.exists_fallsUnder t
  obtain ⟨r', falls', related⟩ := falls.related name model inside
  rwa [rule_of_fallsUnder falls, rule_of_fallsUnder falls']

end Related

theorem related_unqualified (same : t.unqualified = t'.unqualified) :
    (m.rule t).Related (fun a a' => a.unqualified = a'.unqualified) (m.rule t') := by
  obtain ⟨name, mark, inside⟩ := HostType.unqualified_eq_iff.1 same
  apply related_rule name _ inside
  rw [Registry.isModel, Registry.isModel, name, mark]

theorem mapsAlike_unqualified (t t' : HostType) (same : t.unqualified = t'.unqualified) :
    m.MapsAlike t t' :=
  -- The rules of both types lead on at once, so the recursion is on what is inside the first one.
  mapsAlike_of_related <| (related_unqualified same).imp fun a _ha a' inside =>
    mapsAlike_unqualified a a' inside
termination_by t
decreasing_by exact sizeOf_lt_of_mem_contents _ha

end Mapping

end TypeScript

end ServiceClient

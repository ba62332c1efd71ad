import ServiceClient.Validation.Reader

namespace ServiceClient.Validation

variable {α β : Type}

namespace Checked

theorem andThen_eq_accepted_iff {c : Checked α} {f : α → Checked β} {b : β} :
    c.andThen f = .accepted b ↔ ∃ a, c = .accepted a ∧ f a = .accepted b := by
  cases c <;> simp [andThen]

theorem map_eq_accepted_iff {f : α → β} {c : Checked α} {b : β} :
    f <$> c = .accepted b ↔ ∃ a, c = .accepted a ∧ f a = b := by
  cases c <;> simp [Functor.map, map]

theorem seq_eq_accepted_iff {f : Checked (α → β)} {c : Checked α} {b : β} :
    f <*> c = .accepted b ↔ ∃ g a, f = .accepted g ∧ c = .accepted a ∧ g a = b := by
  cases f <;> cases c <;> simp [Seq.seq, seq]

theorem under_eq_accepted_iff {step : Step} {c : Checked α} {a : α} :
    c.under step = .accepted a ↔ c = .accepted a := by
  cases c <;> simp [under]

theorem toExcept_eq_ok_iff {c : Checked α} {a : α} : c.toExcept = .ok a ↔ c = .accepted a := by
  cases c <;> simp [toExcept]

end Checked

open Checked

theorem eq_accepted_of_closed {fields : List String} {entries : List (Value × Value)}
    {c : Checked α} {a : α} (h : closed fields entries c = .accepted a) : c = .accepted a := by
  rw [closed] at h
  split at h
  · exact h
  · obtain ⟨_, _, _, rejected, _⟩ := seq_eq_accepted_iff.1 h
    contradiction

theorem entries_eq_accepted_iff {record : String} {v : Value} {es : List (Value × Value)} :
    entries record v = .accepted es ↔ v.entries? = some es := by
  rw [entries]
  cases v.entries? <;> simp [reject]

theorem accepted_of_field {entries : List (Value × Value)} {name : String} {a : α}
    {read : Value → Checked α} (h : field entries name read = .accepted a) {v : Value}
    (hv : Value.get? name entries = some v) : read v = .accepted a := by
  rw [field, hv] at h
  exact under_eq_accepted_iff.1 h

theorem accepted_of_fieldOr {entries : List (Value × Value)} {name : String} {default a : α}
    {read : Value → Checked α} (h : fieldOr entries name default read = .accepted a) {v : Value}
    (hv : Value.get? name entries = some v) : read v = .accepted a := by
  rw [fieldOr, hv] at h
  exact under_eq_accepted_iff.1 h

theorem accepted_of_mem_eachFrom {read : Value → Checked α} {items : List Value} {i : Int}
    {as : List α} (h : eachFrom read i items = .accepted as) {v : Value} (hv : v ∈ items) :
    ∃ a ∈ as, read v = .accepted a := by
  induction items generalizing i as with
  | nil => contradiction
  | cons w items ih =>
    obtain ⟨_, more, made, rest, rfl⟩ := seq_eq_accepted_iff.1 h
    obtain ⟨a, first, rfl⟩ := map_eq_accepted_iff.1 made
    rcases List.mem_cons.1 hv with rfl | later
    · exact ⟨a, List.mem_cons_self, under_eq_accepted_iff.1 first⟩
    · obtain ⟨b, hb, read⟩ := ih rest later
      exact ⟨b, List.mem_cons_of_mem _ hb, read⟩

theorem eachFrom_of_accepted {read : Value → Checked α} {ps : List (Value × α)}
    (h : ∀ p ∈ ps, read p.1 = .accepted p.2) (i : Int) :
    eachFrom read i (ps.map Prod.fst) = .accepted (ps.map Prod.snd) := by
  induction ps generalizing i with
  | nil => rfl
  | cons p ps ih =>
    rw [List.forall_mem_cons] at h
    rw [List.map_cons, eachFrom, h.1, ih h.2]
    rfl

theorem accepted_of_list {read : Value → Checked α} {v : Value} {as : List α}
    (h : list read v = .accepted as) {items : List Value} (hitems : v.items? = some items)
    {u : Value} (hu : u ∈ items) : ∃ a ∈ as, read u = .accepted a := by
  rw [list, hitems] at h
  exact accepted_of_mem_eachFrom h hu

theorem eq_or_accepted_of_fieldOr {entries : List (Value × Value)} {name : String} {default a : α}
    {read : Value → Checked α} (h : fieldOr entries name default read = .accepted a) :
    a = default ∨ ∃ v, read v = .accepted a := by
  rw [fieldOr] at h
  split at h
  · next v _ => exact .inr ⟨v, under_eq_accepted_iff.1 h⟩
  · cases h
    exact .inl rfl

end ServiceClient.Validation

import Mathlib.Data.List.Forall2
import Mathlib.Data.List.Perm.Basic
import ServiceClient.Proofs.Outcome

namespace ServiceClient.Pointwise

variable {α β γ : Type} {R : α → β → Prop} {as : List α} {bs : List β}

theorem map_eq_map_iff {f : α → γ} {g : β → γ} :
    as.map f = bs.map g ↔ List.Forall₂ (fun a b => f a = g b) as bs := by
  rw [← List.forall₂_eq_eq_eq, List.forall₂_map_left_iff, List.forall₂_map_right_iff]

theorem map_eq {f : α → γ} {g : β → γ} (h : List.Forall₂ R as bs)
    (same : ∀ a b, R a b → f a = g b) : as.map f = bs.map g :=
  map_eq_map_iff.2 (h.imp fun a b => same a b)

theorem exists_of_mem {b : β} (h : List.Forall₂ R as bs) (hb : b ∈ bs) : ∃ a ∈ as, R a b := by
  induction h with
  | nil => contradiction
  | cons hab _ ih =>
    rcases List.mem_cons.1 hb with rfl | later
    · exact ⟨_, List.mem_cons_self, hab⟩
    · obtain ⟨a, ha, related⟩ := ih later
      exact ⟨a, List.mem_cons_of_mem _ ha, related⟩

theorem flatMap_perm {f : α → List γ} {g : β → List γ} (h : List.Forall₂ R as bs)
    (same : ∀ a b, R a b → (f a).Perm (g b)) : (as.flatMap f).Perm (bs.flatMap g) := by
  induction h with
  | nil => exact .refl _
  | cons hab _ ih =>
    rw [List.flatMap_cons, List.flatMap_cons]
    exact (same _ _ hab).append ih

theorem filter_filterMap (f : α → Option β) (as : List α) :
    List.Forall₂ (fun a b => f a = some b) (as.filter fun a => (f a).isSome) (as.filterMap f) := by
  induction as with
  | nil => exact .nil
  | cons a as ih =>
    cases h : f a with
    | none => simpa [h] using ih
    | some b => simpa [h] using ih

theorem of_mapM {ε : Type} {f : α → Except ε β} (h : as.mapM f = .ok bs)
    (sound : ∀ a ∈ as, ∀ b, f a = .ok b → R a b) : List.Forall₂ R as bs := by
  induction as generalizing bs with
  | nil =>
    cases h
    exact .nil
  | cons a as ih =>
    rw [List.forall_mem_cons] at sound
    rw [List.mapM_cons] at h
    obtain ⟨b, hb, h⟩ := Outcome.bind_eq_ok_iff.1 h
    obtain ⟨bs, hbs, ⟨⟩⟩ := Outcome.bind_eq_ok_iff.1 h
    exact .cons (sound.1 b hb) (ih hbs sound.2)

theorem exists_mapM {ε : Type} {f : α → Except ε β}
    (h : ∀ a ∈ as, ∃ b, f a = .ok b ∧ R a b) :
    ∃ bs, as.mapM f = .ok bs ∧ List.Forall₂ R as bs := by
  have total : Outcome.error? (as.mapM f) = none := by
    rw [Outcome.error?_mapM, List.findSome?_eq_none_iff]
    intro a ha
    obtain ⟨b, hb, -⟩ := h a ha
    exact Outcome.error?_eq_none_iff.2 ⟨b, hb⟩
  obtain ⟨bs, hbs⟩ := Outcome.error?_eq_none_iff.1 total
  refine ⟨bs, hbs, of_mapM hbs fun a ha b hb => ?_⟩
  obtain ⟨b', hb', related⟩ := h a ha
  cases hb'.symm.trans hb
  exact related

theorem toOption_mapM {ε : Type} {f : α → Except ε γ} {g : β → Except ε γ}
    (h : List.Forall₂ (fun a b => (f a).toOption = (g b).toOption) as bs) :
    (as.mapM f).toOption = (bs.mapM g).toOption := by
  induction h with
  | nil => rfl
  | cons first _ ih =>
    rw [List.mapM_cons, List.mapM_cons]
    exact Outcome.toOption_bind_congr first fun _ => Outcome.toOption_bind_congr ih fun _ => rfl

end ServiceClient.Pointwise

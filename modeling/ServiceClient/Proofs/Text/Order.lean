import Mathlib.Data.List.Nodup
import Mathlib.Data.List.Zip
import ServiceClient.Text.Order

/-!
The two orders of text are total, and what is sorted does not depend on the order of the input
where no two names agree. Sorting is stable, so that a part of the items is sorted as it stands in
the whole.
-/

namespace ServiceClient.Text

theorem inOrder_iff {a b : String} : inOrder a b = true ↔ a ≤ b := decide_eq_true_iff

theorem inOrder_trans {a b c : String} (h : inOrder a b = true) (g : inOrder b c = true) :
    inOrder a c = true :=
  inOrder_iff.2 (String.le_trans (inOrder_iff.1 h) (inOrder_iff.1 g))

theorem inOrder_total (a b : String) : (inOrder a b || inOrder b a) = true := by
  simpa [inOrder_iff] using String.le_total a b

theorem inOrder_antisymm {a b : String} (h : inOrder a b = true) (g : inOrder b a = true) : a = b :=
  String.le_antisymm (inOrder_iff.1 h) (inOrder_iff.1 g)

theorem alphabetical_iff {a b : String} :
    alphabetical a b = true ↔
      inOrder (fold a) (fold b) = true ∧ (fold a = fold b → inOrder a b) := by
  rw [alphabetical]
  split
  · next same => simp [same, inOrder_iff]
  · next differ => simp [differ]

theorem alphabetical_trans {a b c : String} (h : alphabetical a b = true)
    (g : alphabetical b c = true) : alphabetical a c = true := by
  rw [alphabetical_iff] at *
  refine ⟨inOrder_trans h.1 g.1, fun same => ?_⟩
  have ab : fold a = fold b := inOrder_antisymm h.1 (same ▸ g.1)
  exact inOrder_trans (h.2 ab) (g.2 (ab ▸ same))

theorem alphabetical_total (a b : String) : (alphabetical a b || alphabetical b a) = true := by
  rw [alphabetical, alphabetical]
  by_cases same : fold a = fold b
  · simpa [same] using inOrder_total a b
  · simpa [same, Ne.symm same] using inOrder_total (fold a) (fold b)

theorem alphabetical_antisymm {a b : String} (h : alphabetical a b = true)
    (g : alphabetical b a = true) : a = b := by
  rw [alphabetical_iff] at h g
  have same : fold a = fold b := inOrder_antisymm h.1 g.1
  exact inOrder_antisymm (h.2 same) (g.2 same.symm)

variable {α β : Type}

theorem pairwise_sort (texts : List String) :
    (sort texts).Pairwise fun a b => inOrder a b = true := by
  apply List.pairwise_mergeSort
  · exact fun _ _ _ => inOrder_trans
  · exact inOrder_total

theorem pairwise_sortByName (name : α → String) (items : List α) :
    (sortByName name items).Pairwise fun a b => alphabetical (name a) (name b) = true := by
  apply List.pairwise_mergeSort
  · exact fun _ _ _ => alphabetical_trans
  · exact fun _ _ => alphabetical_total _ _

theorem sort_eq_of_pairwise {texts texts' : List String} (h : texts.Perm texts')
    (sorted : texts'.Pairwise fun a b => inOrder a b = true) : sort texts = texts' := by
  apply List.Perm.eq_of_pairwise (fun _ _ _ _ => inOrder_antisymm) (pairwise_sort texts) sorted
  exact (sort_perm texts).trans h

theorem sort_eq_of_perm {texts texts' : List String} (h : texts.Perm texts') :
    sort texts = sort texts' :=
  sort_eq_of_pairwise (h.trans (sort_perm _).symm) (pairwise_sort _)

theorem find?_eq_some_iff_of_pairwise {texts : List String} {p : String → Bool} {text : String}
    (sorted : texts.Pairwise fun a b => inOrder a b = true) :
    texts.find? p = some text ↔
      text ∈ texts ∧ p text = true ∧ ∀ other ∈ texts, p other = true → text ≤ other := by
  induction texts with
  | nil => simp
  | cons first texts ih =>
    rw [List.pairwise_cons] at sorted
    rw [List.find?_cons]
    cases found : p first with
    | true =>
      constructor
      · rintro ⟨⟩
        refine ⟨List.mem_cons_self, found, fun other hother _ => ?_⟩
        rcases List.mem_cons.1 hother with rfl | later
        · exact String.le_refl _
        · exact inOrder_iff.1 (sorted.1 other later)
      · rintro ⟨member, -, least⟩
        rcases List.mem_cons.1 member with rfl | later
        · rfl
        · have before := inOrder_iff.1 (sorted.1 text later)
          exact congrArg some (String.le_antisymm before (least first List.mem_cons_self found))
    | false =>
      rw [ih sorted.2]
      constructor
      · rintro ⟨member, holds, least⟩
        refine ⟨List.mem_cons_of_mem _ member, holds, List.forall_mem_cons.2 ⟨?_, least⟩⟩
        exact fun holds => absurd holds (by rw [found]; exact Bool.false_ne_true)
      · rintro ⟨member, holds, least⟩
        rw [List.forall_mem_cons] at least
        refine ⟨(List.mem_cons.1 member).resolve_left ?_, holds, least.2⟩
        rintro rfl
        exact Bool.false_ne_true (found.symm.trans holds)

theorem exists_sort_cons (text : String) (texts : List String) :
    ∃ earlier later, sort texts = earlier ++ later ∧
      sort (text :: texts) = earlier ++ text :: later := by
  obtain ⟨earlier, later, whole, rest, _⟩ :=
    @List.mergeSort_cons _ inOrder (fun _ _ _ => inOrder_trans) inOrder_total text texts
  exact ⟨earlier, later, rest, whole⟩

theorem sortByName_perm_of_perm (name : α → String) {items items' : List α}
    (h : items.Perm items') : (sortByName name items).Perm (sortByName name items') :=
  (sortByName_perm _ _).trans (h.trans (sortByName_perm _ _).symm)

theorem sortByName_eq_of_perm {name : α → String} {items items' : List α} (h : items.Perm items')
    (distinct : (items.map name).Nodup) : sortByName name items = sortByName name items' := by
  refine List.Perm.eq_of_pairwise ?_ (pairwise_sortByName _ _) (pairwise_sortByName _ _)
    (sortByName_perm_of_perm name h)
  intro a b ha hb ab ba
  rw [(sortByName_perm _ _).mem_iff] at ha hb
  exact List.inj_on_of_nodup_map distinct ha (h.mem_iff.2 hb) (alphabetical_antisymm ab ba)

theorem map_sortByName_eq_of_perm {name : α → String} {items items' : List α}
    (h : items.Perm items') :
    (sortByName name items).map name = (sortByName name items').map name := by
  refine List.Perm.eq_of_pairwise (fun _ _ _ _ => alphabetical_antisymm) ?_ ?_
    ((sortByName_perm_of_perm name h).map name)
  · exact List.pairwise_map.2 (pairwise_sortByName name items)
  · exact List.pairwise_map.2 (pairwise_sortByName name items')

theorem map_sortByName {f : α → β} {name : α → String} {name' : β → String} {items : List α}
    (same : ∀ a ∈ items, name' (f a) = name a) :
    (sortByName name items).map f = sortByName name' (items.map f) := by
  rw [sortByName, sortByName]
  apply List.map_mergeSort
  intro a ha b hb
  rw [same a ha, same b hb]

theorem map_sortByName_self (name : α → String) (items : List α) :
    (sortByName name items).map name = sortByName id (items.map name) :=
  map_sortByName fun _ _ => rfl

theorem sortByName_of_fold_eq {folded : String} {names : List String}
    (same : ∀ name ∈ names, fold name = folded) : sortByName id names = sort names := by
  symm
  apply sort_eq_of_pairwise (sortByName_perm id names).symm
  apply (pairwise_sortByName id names).imp_of_mem
  intro a b ha hb h
  rw [(sortByName_perm id names).mem_iff] at ha hb
  exact (alphabetical_iff.1 h).2 ((same a ha).trans (same b hb).symm)

theorem takeWhile_append_parted {p : α → Bool} {l r : List α} (left : ∀ a ∈ l, p a = true)
    (right : ∀ a ∈ r, p a = false) : (l ++ r).takeWhile p = l := by
  rw [List.takeWhile_append_of_pos left]
  cases r with
  | nil => simp
  | cons a r => simp [right a List.mem_cons_self]

theorem exists_sortByName_cons (name : α → String) (a : α) (items : List α) :
    ∃ earlier later, sortByName name (a :: items) = earlier ++ a :: later ∧
      sortByName name items = earlier ++ later ∧
      (∀ b ∈ earlier, alphabetical (name a) (name b) = false) ∧
      ∀ b ∈ later, alphabetical (name a) (name b) = true := by
  obtain ⟨earlier, later, whole, rest, before⟩ :=
    @List.mergeSort_cons _ (fun a b => alphabetical (name a) (name b))
      (fun _ _ _ => alphabetical_trans) (fun _ _ => alphabetical_total _ _) a items
  have sorted := pairwise_sortByName name (a :: items)
  rw [sortByName, whole, List.pairwise_append, List.pairwise_cons] at sorted
  refine ⟨earlier, later, whole, rest, fun b hb => ?_, sorted.2.1.1⟩
  simpa using before b hb

theorem sortByName_cons {name : α → String} {a : α} {items earlier later : List α}
    (sorted : sortByName name items = earlier ++ later)
    (before : ∀ b ∈ earlier, alphabetical (name a) (name b) = false)
    (after : ∀ b ∈ later, alphabetical (name a) (name b) = true) :
    sortByName name (a :: items) = earlier ++ a :: later := by
  obtain ⟨earlier', later', whole, rest, before', after'⟩ := exists_sortByName_cons name a items
  have same : earlier ++ later = earlier' ++ later' := sorted.symm.trans rest
  -- Both places are where the items cease to come before the new one.
  have place : earlier = earlier' := by
    rw [← takeWhile_append_parted (p := fun b => !alphabetical (name a) (name b)) (l := earlier)
      (r := later), same, takeWhile_append_parted]
    all_goals simpa
  subst place
  rw [whole, List.append_cancel_left same]

theorem filter_sortByName (p : α → Bool) (name : α → String) (items : List α) :
    (sortByName name items).filter p = sortByName name (items.filter p) := by
  induction items with
  | nil => simp [sortByName]
  | cons a items ih =>
    obtain ⟨earlier, later, whole, rest, before, after⟩ := exists_sortByName_cons name a items
    rw [rest, List.filter_append] at ih
    rw [whole, List.filter_append]
    by_cases stays : p a
    · rw [List.filter_cons_of_pos stays, List.filter_cons_of_pos stays]
      symm
      apply sortByName_cons ih.symm
      · exact fun b hb => before b (List.mem_filter.1 hb).1
      · exact fun b hb => after b (List.mem_filter.1 hb).1
    · rw [List.filter_cons_of_neg stays, List.filter_cons_of_neg stays, ih]

theorem forall₂_sortByName {R : α → β → Prop} {name : α → String} {name' : β → String}
    {items : List α} {items' : List β} (h : List.Forall₂ R items items')
    (same : ∀ a b, R a b → name a = name' b) :
    List.Forall₂ R (sortByName name items) (sortByName name' items') := by
  obtain ⟨length, related⟩ := List.forall₂_iff_zip.1 h
  -- Both sorts are the images of one sort of the pairs.
  have left : (sortByName (name ·.1) (items.zip items')).map Prod.fst = sortByName name items := by
    rw [map_sortByName fun _ _ => rfl, List.map_fst_zip (by omega)]
  have right : (sortByName (name ·.1) (items.zip items')).map Prod.snd
      = sortByName name' items' := by
    rw [map_sortByName fun p hp => (same _ _ (related hp)).symm, List.map_snd_zip (by omega)]
  rw [← left, ← right, List.forall₂_map_left_iff, List.forall₂_map_right_iff, List.forall₂_same]
  intro p hp
  exact related ((sortByName_perm _ _).mem_iff.1 hp)

end ServiceClient.Text

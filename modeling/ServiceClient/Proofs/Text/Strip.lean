import Mathlib.Data.List.DropRight
import ServiceClient.Text.Blank

namespace ServiceClient.Text

theorem stripEnd_eq_rdropWhile (p : Char → Bool) (cs : List Char) :
    stripEnd p cs = cs.rdropWhile p := rfl

theorem exists_append_stripEnd (p : Char → Bool) (cs : List Char) :
    ∃ gap, (∀ c ∈ gap, p c = true) ∧ cs = stripEnd p cs ++ gap := by
  refine ⟨cs.rtakeWhile p, fun c hc => List.mem_rtakeWhile_imp hc, ?_⟩
  rw [stripEnd_eq_rdropWhile, List.rdropWhile_append_rtakeWhile]

theorem stripEnd_eq_nil {p : Char → Bool} {cs : List Char} (h : ∀ c ∈ cs, p c = true) :
    stripEnd p cs = [] :=
  List.rdropWhile_eq_nil_iff.2 h

theorem stripEnd_eq_self {p : Char → Bool} {cs : List Char} (h : ∀ c ∈ cs.getLast?, p c = false) :
    stripEnd p cs = cs := by
  refine List.rdropWhile_eq_self_iff.2 fun hne => ?_
  rw [h _ (List.getLast?_eq_getLast_of_ne_nil hne)]
  simp

theorem stripEnd_append {p : Char → Bool} {cs ds : List Char}
    (h : ∀ c ∈ cs.getLast?, p c = false) : stripEnd p (cs ++ ds) = cs ++ stripEnd p ds := by
  have kept : (cs.reverse.dropWhile p).reverse = cs := stripEnd_eq_self h
  rw [stripEnd, List.reverse_append, List.dropWhile_append]
  split
  · next empty =>
    rw [kept, stripEnd, List.isEmpty_iff.1 empty, List.reverse_nil, List.append_nil]
  · rw [List.reverse_append, List.reverse_reverse, stripEnd]

theorem mem_head?_of_stripEnd {p : Char → Bool} {cs : List Char} {c : Char}
    (h : c ∈ (stripEnd p cs).head?) : c ∈ cs.head? := by
  obtain ⟨gap, _, split⟩ := exists_append_stripEnd p cs
  rw [split]
  exact List.mem_head?_append_of_mem_head? h

theorem getLast?_stripEnd (p : Char → Bool) (cs : List Char) :
    ∀ c ∈ (stripEnd p cs).getLast?, p c = false := by
  intro c hc
  have kept : stripEnd p cs ≠ [] := by
    intro none
    rw [none] at hc
    contradiction
  have last := List.rdropWhile_last_not p cs kept
  rw [List.getLast?_eq_getLast_of_ne_nil kept] at hc
  rw [← Option.some.inj hc]
  exact Bool.eq_false_iff.2 last

theorem head?_strip (p : Char → Bool) (cs : List Char) : ∀ c ∈ (strip p cs).head?, p c = false := by
  intro c hc
  have stays := List.head?_dropWhile_not p cs
  rw [Option.mem_def.1 (mem_head?_of_stripEnd hc)] at stays
  simpa using stays

theorem exists_append_strip (p : Char → Bool) (cs : List Char) :
    ∃ gap, (∀ c ∈ gap, p c = true) ∧ cs = cs.takeWhile p ++ strip p cs ++ gap := by
  obtain ⟨gap, hgap, split⟩ := exists_append_stripEnd p (cs.dropWhile p)
  refine ⟨gap, hgap, ?_⟩
  rw [strip, List.append_assoc, ← split, List.takeWhile_append_dropWhile]

theorem stripEnd_isPrefix (p : Char → Bool) (cs : List Char) : stripEnd p cs <+: cs :=
  List.rdropWhile_prefix p cs

theorem strip_sublist (p : Char → Bool) (cs : List Char) : (strip p cs).Sublist cs :=
  (stripEnd_isPrefix p _).sublist.trans (List.dropWhile_sublist p)

theorem strip_append_append {p : Char → Bool} {before cs after : List Char}
    (hbefore : ∀ c ∈ before, p c = true) (hafter : ∀ c ∈ after, p c = true)
    (head : ∀ c ∈ cs.head?, p c = false) (last : ∀ c ∈ cs.getLast?, p c = false) :
    strip p (before ++ cs ++ after) = cs := by
  rw [strip, List.append_assoc, List.dropWhile_append_of_pos hbefore]
  cases cs with
  | nil => rw [List.nil_append, List.dropWhile_eq_nil_iff.2 hafter, stripEnd_nil]
  | cons c cs =>
    have first : p c = false := head c rfl
    rw [List.cons_append, List.dropWhile_cons_of_neg (by simp [first]), ← List.cons_append,
      stripEnd_append last, stripEnd_eq_nil hafter, List.append_nil]

theorem strip_eq_nil_iff {p : Char → Bool} {cs : List Char} :
    strip p cs = [] ↔ ∀ c ∈ cs, p c = true := by
  constructor
  · intro none
    obtain ⟨gap, hgap, split⟩ := exists_append_strip p cs
    intro c hc
    rw [split, none, List.append_nil] at hc
    rcases List.mem_append.1 hc with before | after
    · exact List.mem_takeWhile_imp before
    · exact hgap c after
  · intro all
    rw [strip, List.dropWhile_eq_nil_iff.2 all, stripEnd_nil]

theorem stripEnd_eq_append_strip {p : Char → Bool} {cs : List Char} (h : strip p cs ≠ []) :
    stripEnd p cs = cs.takeWhile p ++ strip p cs := by
  obtain ⟨gap, hgap, split⟩ := exists_append_strip p cs
  have last : ∀ c ∈ (cs.takeWhile p ++ strip p cs).getLast?, p c = false := by
    rw [List.getLast?_append_of_ne_nil _ h]
    exact getLast?_stripEnd p _
  calc
    stripEnd p cs = stripEnd p (cs.takeWhile p ++ strip p cs ++ gap) := by rw [← split]
    _ = cs.takeWhile p ++ strip p cs := by
      rw [stripEnd_append last, stripEnd_eq_nil hgap, List.append_nil]

theorem strip_eq_self_iff {p : Char → Bool} {cs : List Char} :
    strip p cs = cs ↔
      (∀ c ∈ cs.head?, p c = false) ∧ ∀ c ∈ cs.getLast?, p c = false := by
  constructor
  · intro same
    rw [← same]
    exact ⟨head?_strip p cs, getLast?_stripEnd p _⟩
  · rintro ⟨head, last⟩
    have none : ∀ c ∈ ([] : List Char), p c = true := List.forall_mem_nil _
    have kept := strip_append_append none none head last
    rwa [List.nil_append, List.append_nil] at kept

theorem strip_strip (p : Char → Bool) (cs : List Char) : strip p (strip p cs) = strip p cs :=
  strip_eq_self_iff.2 ⟨head?_strip p cs, getLast?_stripEnd p _⟩

@[simp] theorem trim_trim (text : String) : trim (trim text) = trim text := by
  rw [trim, trim, String.toList_ofList, strip_strip]

theorem exists_append_of_suffix {suffix text : String} (h : suffix.toList <:+ text.toList) :
    ∃ start, text = start ++ suffix := by
  obtain ⟨start, whole⟩ := h
  refine ⟨.ofList start, String.toList_injective ?_⟩
  rw [String.toList_append, String.toList_ofList, whole]

theorem dropSuffix?_append (start suffix : String) :
    dropSuffix? suffix (start ++ suffix) = some start := by
  rw [dropSuffix?, String.toList_append, if_pos, List.length_append, Nat.add_sub_cancel,
    List.take_left, String.ofList_toList]
  exact List.isSuffixOf_iff_suffix.2 (List.suffix_append _ _)

theorem dropSuffix?_eq_none {suffix text : String} (h : ¬suffix.toList <:+ text.toList) :
    dropSuffix? suffix text = none := by
  rw [dropSuffix?, if_neg]
  rwa [List.isSuffixOf_iff_suffix]

theorem exists_dropSuffix (suffix text : String) :
    ∃ rest, text = (dropSuffix? suffix text).getD text ++ rest ∧ (rest = "" ∨ rest = suffix) := by
  by_cases ends : suffix.toList <:+ text.toList
  · obtain ⟨start, rfl⟩ := exists_append_of_suffix ends
    exact ⟨suffix, by rw [dropSuffix?_append, Option.getD_some], .inr rfl⟩
  · refine ⟨"", ?_, .inl rfl⟩
    rw [dropSuffix?_eq_none ends, Option.getD_none, String.append_empty]

end ServiceClient.Text

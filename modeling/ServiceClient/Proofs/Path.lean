import Mathlib.Data.List.Basic
import ServiceClient.Path

namespace ServiceClient.Path

structure Normal (p : Path) : Prop where
  slashes : p.slashes ≤ 2
  parts : ∀ part ∈ p.parts, '/' ∉ part.toList ∧ part ≠ "" ∧ part ≠ "."

theorem split_cons_of_ne {c : Char} {cs part : List Char} {parts : List (List Char)} (h : c ≠ '/')
    (hs : split cs = part :: parts) : split (c :: cs) = (c :: part) :: parts := by
  unfold split
  rw [hs]
  split <;> simp_all

theorem split_ne_nil (cs : List Char) : split cs ≠ [] := by
  cases cs with
  | nil => simp [split]
  | cons c cs =>
    unfold split
    split <;> simp

theorem split_slash (cs : List Char) : split ('/' :: cs) = [] :: split cs := by
  rw [split]

theorem slash_not_mem_split (cs : List Char) : ∀ part ∈ split cs, '/' ∉ part := by
  induction cs with
  | nil => simp [split]
  | cons c cs ih =>
    by_cases h : c = '/'
    · rw [h, split_slash]
      simpa using ih
    · obtain ⟨part, parts, hs⟩ := List.exists_cons_of_ne_nil (split_ne_nil cs)
      rw [hs, List.forall_mem_cons] at ih
      rw [split_cons_of_ne h hs, List.forall_mem_cons]
      exact ⟨by simpa [Ne.symm h] using ih.1, ih.2⟩

theorem split_of_not_mem {part : List Char} (h : '/' ∉ part) : split part = [part] := by
  induction part with
  | nil => rfl
  | cons c cs ih =>
    rw [List.mem_cons, not_or] at h
    exact split_cons_of_ne (Ne.symm h.1) (ih h.2)

theorem split_append_slash {part : List Char} (cs : List Char) (h : '/' ∉ part) :
    split (part ++ '/' :: cs) = part :: split cs := by
  induction part with
  | nil => exact split_slash cs
  | cons c part ih =>
    rw [List.mem_cons, not_or] at h
    exact split_cons_of_ne (Ne.symm h.1) (ih h.2)

theorem split_intercalate {parts : List (List Char)} (hne : parts ≠ [])
    (h : ∀ part ∈ parts, '/' ∉ part) : split (['/'].intercalate parts) = parts := by
  induction parts with
  | nil => contradiction
  | cons part parts ih =>
    rw [List.forall_mem_cons] at h
    cases parts with
    | nil => rw [List.intercalate_singleton, split_of_not_mem h.1]
    | cons next parts =>
      rw [List.intercalate_cons_cons, List.append_assoc, List.singleton_append,
        split_append_slash _ h.1, ih (by simp) h.2]

theorem split_replicate_append (n : Nat) (cs : List Char) :
    split (List.replicate n '/' ++ cs) = List.replicate n [] ++ split cs := by
  induction n with
  | zero => rfl
  | succ n ih => rw [List.replicate_succ, List.cons_append, split_slash, ih, List.replicate_succ,
      List.cons_append]

theorem leadingSlashes_le (cs : List Char) : leadingSlashes cs ≤ 2 := by
  rw [leadingSlashes]
  split <;> omega

theorem normal_parse (text : String) : (parse text).Normal := by
  refine ⟨leadingSlashes_le _, fun part hpart => ?_⟩
  obtain ⟨hpart, leads⟩ := List.mem_filter.1 hpart
  obtain ⟨cs, hcs, rfl⟩ := List.mem_map.1 hpart
  refine ⟨?_, by simpa using leads⟩
  rw [String.toList_ofList]
  exact slash_not_mem_split _ cs hcs

theorem takeWhile_intercalate {parts : List (List Char)}
    (h : ∀ part ∈ parts, '/' ∉ part ∧ part ≠ []) :
    (['/'].intercalate parts).takeWhile (· == '/') = [] := by
  rcases parts with _ | ⟨_ | ⟨c, cs⟩, rest⟩
  · rfl
  · simp at h
  · have first : c ≠ '/' := by
      rw [List.forall_mem_cons, List.mem_cons, not_or] at h
      exact Ne.symm h.1.1.1
    cases rest <;> simp [List.intercalate, first]

theorem leadingSlashes_replicate_append {n : Nat} {cs : List Char} (hn : n ≤ 2)
    (h : cs.takeWhile (· == '/') = []) : leadingSlashes (List.replicate n '/' ++ cs) = n := by
  have run : (List.replicate n '/' ++ cs).takeWhile (· == '/') = List.replicate n '/' := by
    rw [List.takeWhile_append_of_pos (by simp [List.mem_replicate]), h, List.append_nil]
  rw [leadingSlashes, run, List.length_replicate]
  match n, hn with
  | 0, _ => rfl
  | 1, _ => rfl
  | 2, _ => rfl

theorem parse_render {p : Path} (h : p.Normal) : parse p.render = p := by
  obtain ⟨slashes, parts⟩ := p
  by_cases here : slashes = 0 ∧ parts = []
  · obtain ⟨rfl, rfl⟩ := here
    decide +kernel
  have whole : (render ⟨slashes, parts⟩).toList =
      List.replicate slashes '/' ++ ['/'].intercalate (parts.map String.toList) := by
    rw [render, if_neg here, String.toList_append, String.toList_ofList, String.toList_intercalate]
    rfl
  have chars : ∀ cs ∈ parts.map String.toList, '/' ∉ cs ∧ cs ≠ [] := by
    intro cs hcs
    obtain ⟨part, hpart, rfl⟩ := List.mem_map.1 hcs
    exact ⟨(h.parts part hpart).1, by simpa using (h.parts part hpart).2.1⟩
  have kept : parts.filter (fun part => part ≠ "" ∧ part ≠ ".") = parts :=
    List.filter_eq_self.2 fun part hpart => by simpa using (h.parts part hpart).2
  have read : ((split (List.replicate slashes '/' ++ ['/'].intercalate
      (parts.map String.toList))).map String.ofList).filter (fun part => part ≠ "" ∧ part ≠ ".") =
      parts := by
    rw [split_replicate_append, List.map_append, List.map_replicate, List.filter_append,
      List.filter_replicate_of_neg (by simp), List.nil_append]
    cases parts with
    | nil => rfl
    | cons first rest =>
      rw [split_intercalate (by simp) fun cs hcs => (chars cs hcs).1, List.map_map]
      simpa [Function.comp_def] using kept
  rw [parse, whole, leadingSlashes_replicate_append h.slashes (takeWhile_intercalate chars), read]

end ServiceClient.Path

import Mathlib.Data.List.Forall2
import ServiceClient.Proofs.Text.Strip
import ServiceClient.Url

namespace ServiceClient.Url

open Text

@[simp] theorem isSlash_eq_true_iff {c : Char} : isSlash c = true ↔ c = '/' := by
  simp [isSlash]

@[simp] theorem isSlash_eq_false_iff {c : Char} : isSlash c = false ↔ c ≠ '/' := by
  simp [isSlash]

def AreSlashes (text : String) : Prop := ∀ c ∈ text.toList, c = '/'

/-- A part with more than slashes. -/
def IsSegment (part : String) : Prop := ∃ c ∈ part.toList, c ≠ '/'

instance : DecidablePred IsSegment := fun part =>
  decidable_of_iff (part.toList.any (!isSlash ·) = true) (by simp [IsSegment])

def segments (parts : List String) : List String := parts.filter (IsSegment ·)

def leading (text : String) : String := .ofList (text.toList.takeWhile isSlash)

structure IsBare (text : String) : Prop where
  filled : text ≠ ""
  head : ∀ c ∈ text.toList.head?, c ≠ '/'
  last : ∀ c ∈ text.toList.getLast?, c ≠ '/'

structure IsCore (part core : String) : Prop where
  bare : IsBare core
  between : ∃ before after, AreSlashes before ∧ AreSlashes after ∧ part = before ++ core ++ after

def core (part : String) : String := .ofList (strip isSlash part.toList)

theorem not_isSegment_iff {part : String} : ¬IsSegment part ↔ AreSlashes part := by
  simp [IsSegment, AreSlashes]

theorem isSegment_iff {part : String} : IsSegment part ↔ core part ≠ "" := by
  rw [← not_iff_not, not_isSegment_iff, not_not, core, ← String.toList_inj, String.toList_ofList,
    String.toList_empty, strip_eq_nil_iff]
  simp [AreSlashes]

theorem areSlashes_leading (text : String) : AreSlashes (leading text) := by
  intro c hc
  rw [leading, String.toList_ofList] at hc
  simpa using List.mem_takeWhile_imp hc

theorem isCore_core {part : String} (h : IsSegment part) : IsCore part (core part) := by
  obtain ⟨gap, hgap, split⟩ := exists_append_strip isSlash part.toList
  constructor
  · constructor
    · exact isSegment_iff.1 h
    · intro c hc
      rw [core, String.toList_ofList] at hc
      exact isSlash_eq_false_iff.1 (head?_strip isSlash _ c hc)
    · intro c hc
      rw [core, String.toList_ofList] at hc
      exact isSlash_eq_false_iff.1 (getLast?_stripEnd isSlash _ c hc)
  · refine ⟨leading part, .ofList gap, areSlashes_leading part, ?_, ?_⟩
    · simpa [AreSlashes] using hgap
    · apply String.toList_injective
      simpa [leading, core] using split

namespace IsBare

variable {before text after : String} (bare : IsBare text)
include bare

theorem exists_cons : ∃ c cs, text.toList = c :: cs ∧ c ≠ '/' := by
  obtain ⟨c, cs, filled⟩ := List.exists_cons_of_ne_nil (mt String.toList_eq_nil_iff.1 bare.filled)
  exact ⟨c, cs, filled, bare.head c (by simp [filled])⟩

theorem isSegment (before : String) : IsSegment (before ++ text) := by
  obtain ⟨c, cs, filled, other⟩ := bare.exists_cons
  exact ⟨c, by simp [filled], other⟩

theorem leading_append (hbefore : AreSlashes before) : leading (before ++ text) = before := by
  obtain ⟨c, cs, filled, other⟩ := bare.exists_cons
  have slashes : ∀ d ∈ before.toList, isSlash d = true := by simpa [AreSlashes] using hbefore
  rw [leading, String.toList_append, filled, List.takeWhile_append_of_pos slashes]
  simp [isSlash_eq_false_iff.2 other]

theorem core_append (hbefore : AreSlashes before) (hafter : AreSlashes after) :
    core (before ++ text ++ after) = text := by
  rw [core, String.toList_append, String.toList_append, strip_append_append, String.ofList_toList]
  · simpa [AreSlashes] using hbefore
  · simpa [AreSlashes] using hafter
  · simpa using bare.head
  · simpa using bare.last

theorem append_slash {text' : String} (bare' : IsBare text') : IsBare (text ++ "/" ++ text') := by
  have filled : text.toList ≠ [] := mt String.toList_eq_nil_iff.1 bare.filled
  have filled' : text'.toList ≠ [] := mt String.toList_eq_nil_iff.1 bare'.filled
  constructor
  · simp
  · rw [String.toList_append, String.toList_append, List.append_assoc,
      List.head?_append_of_ne_nil _ filled]
    exact bare.head
  · rw [String.toList_append, List.getLast?_append_of_ne_nil _ filled']
    exact bare'.last

end IsBare

theorem isBare_intercalate {texts : List String} (hne : texts ≠ [])
    (h : ∀ text ∈ texts, IsBare text) : IsBare ("/".intercalate texts) := by
  induction texts with
  | nil => contradiction
  | cons text texts ih =>
    rw [List.forall_mem_cons] at h
    cases texts with
    | nil => simpa using h.1
    | cons next texts =>
      rw [String.intercalate_cons_cons]
      exact h.1.append_slash (ih (List.cons_ne_nil _ _) h.2)

theorem filter_map_toList (parts : List String) :
    ((parts.map String.toList).filter fun part => part.any (!isSlash ·)) =
      (segments parts).map String.toList := by
  rw [List.filter_map, segments]
  congr 1
  refine List.filter_congr fun part _ => ?_
  rw [Function.comp_apply, Bool.eq_iff_iff, decide_eq_true_iff]
  simp [IsSegment]

theorem combineUri_of_no_segments {parts : List String} (h : segments parts = []) :
    combineUri parts = "" := by
  rw [combineUri, joinParts, filter_map_toList, h]
  rfl

theorem intercalate_cons_eq_append (text : List Char) (texts : List (List Char)) :
    ['/'].intercalate (text :: texts) = text ++ texts.flatMap ('/' :: ·) := by
  induction texts generalizing text with
  | nil => simp
  | cons next texts ih =>
    rw [List.intercalate_cons_cons, ih next]
    simp

theorem combineUri_of_segments {parts : List String} {first : String} {rest : List String}
    (h : segments parts = first :: rest) :
    combineUri parts = leading first ++ "/".intercalate ((first :: rest).map core) := by
  have member : first ∈ segments parts := h ▸ List.mem_cons_self
  have segment : IsSegment first := of_decide_eq_true (List.mem_filter.1 member).2
  have kept : strip isSlash first.toList ≠ [] := by
    have filled := isSegment_iff.1 segment
    rwa [core, Ne, String.ofList_eq_empty_iff] at filled
  apply String.toList_injective
  rw [combineUri, joinParts, filter_map_toList, h, String.toList_ofList, String.toList_append,
    String.toList_intercalate, List.map_map, List.map_cons, List.map_cons]
  simp only [stripEnd_eq_append_strip kept]
  have s : "/".toList = ['/'] := rfl
  rw [s, intercalate_cons_eq_append]
  simp [leading, core, List.flatMap_map]

theorem combineUri_congr {parts parts' : List String} (h : segments parts = segments parts') :
    combineUri parts = combineUri parts' := by
  rw [combineUri, combineUri, joinParts, joinParts, filter_map_toList, filter_map_toList, h]

section Segments

variable {parts : List String} {first : String} {rest : List String}
  (h : segments parts = first :: rest)
include h

theorem isSegment_of_mem {part : String} (hpart : part ∈ first :: rest) : IsSegment part := by
  rw [← h] at hpart
  exact of_decide_eq_true (List.mem_filter.1 hpart).2

theorem isBare_cores : IsBare ("/".intercalate ((first :: rest).map core)) := by
  refine isBare_intercalate (by simp) fun text htext => ?_
  obtain ⟨part, hpart, rfl⟩ := List.mem_map.1 htext
  exact (isCore_core (isSegment_of_mem h hpart)).bare

theorem isSegment_combineUri : IsSegment (combineUri parts) := by
  rw [combineUri_of_segments h]
  exact (isBare_cores h).isSegment (leading first)

theorem leading_combineUri : leading (combineUri parts) = leading first := by
  rw [combineUri_of_segments h]
  exact (isBare_cores h).leading_append (areSlashes_leading first)

theorem core_combineUri : core (combineUri parts) = "/".intercalate ((first :: rest).map core) := by
  have none : AreSlashes "" := by simp [AreSlashes]
  have cores := (isBare_cores h).core_append (areSlashes_leading first) none
  rwa [String.append_empty, ← combineUri_of_segments h] at cores

end Segments

theorem combineUri_combineUri (parts : List String) :
    combineUri [combineUri parts] = combineUri parts := by
  cases h : segments parts with
  | nil =>
    rw [combineUri_of_no_segments h]
    rfl
  | cons first rest =>
    have alone : segments [combineUri parts] = [combineUri parts] := by
      simp [segments, isSegment_combineUri h]
    rw [combineUri_of_segments alone, leading_combineUri h, List.map_singleton, core_combineUri h,
      String.intercalate_singleton, ← combineUri_of_segments h]

structure Joins (parts : List String) (text : String) : Prop where
  last : ∀ c ∈ text.toList.getLast?, c ≠ '/'
  empty : text = "" ↔ ∀ part ∈ parts, AreSlashes part
  leading : ∀ first ∈ (segments parts).head?, leading text = leading first
  cores : ∃ cores, List.Forall₂ IsCore (segments parts) cores ∧
    text = Url.leading text ++ "/".intercalate cores

theorem segments_eq_nil_iff {parts : List String} :
    segments parts = [] ↔ ∀ part ∈ parts, AreSlashes part := by
  simp [segments, not_isSegment_iff]

theorem joins_combineUri (parts : List String) : Joins parts (combineUri parts) := by
  cases h : segments parts with
  | nil =>
    rw [combineUri_of_no_segments h]
    refine ⟨by simp, iff_of_true rfl (segments_eq_nil_iff.1 h), by simp [h], [], ?_, rfl⟩
    rw [h]
    exact .nil
  | cons first rest =>
    have cores := isBare_cores h
    refine ⟨?_, ?_, ?_, (first :: rest).map core, ?_, ?_⟩
    · rw [combineUri_of_segments h, String.toList_append,
        List.getLast?_append_of_ne_nil _ (mt String.toList_eq_nil_iff.1 cores.filled)]
      exact cores.last
    · refine iff_of_false ?_ (by rw [← segments_eq_nil_iff, h]; exact List.cons_ne_nil _ _)
      obtain ⟨c, hc, -⟩ := isSegment_combineUri h
      rintro empty
      rw [empty] at hc
      contradiction
    · rintro first' hfirst'
      rw [h] at hfirst'
      rw [← Option.some.inj hfirst', leading_combineUri h]
    · rw [h, List.forall₂_map_right_iff, List.forall₂_same]
      exact fun part hpart => isCore_core (isSegment_of_mem h hpart)
    · rw [leading_combineUri h, ← combineUri_of_segments h]

section Groups

variable {xs ys : List String}

theorem not_isSegment_empty : ¬IsSegment "" := by
  simp [IsSegment]

theorem segments_append (xs ys : List String) :
    segments (xs ++ ys) = segments xs ++ segments ys :=
  List.filter_append ..

theorem combineUri_append_left (h : segments xs = []) :
    combineUri (xs ++ ys) = combineUri [combineUri xs, combineUri ys] := by
  have parted : segments (xs ++ ys) = segments ys := by rw [segments_append, h, List.nil_append]
  have alone : segments ["", combineUri ys] = segments [combineUri ys] := by
    simp [segments, not_isSegment_empty]
  rw [combineUri_congr parted, combineUri_of_no_segments h, combineUri_congr alone,
    combineUri_combineUri]

theorem combineUri_append_right (h : segments ys = []) :
    combineUri (xs ++ ys) = combineUri [combineUri xs, combineUri ys] := by
  have parted : segments (xs ++ ys) = segments xs := by rw [segments_append, h, List.append_nil]
  have alone : segments [combineUri xs, ""] = segments [combineUri xs] := by
    simp [segments, List.filter_cons, not_isSegment_empty]
  rw [combineUri_congr parted, combineUri_of_no_segments h, combineUri_congr alone,
    combineUri_combineUri]

theorem combineUri_append_of_segments {x y : String} {xs' ys' : List String}
    (hx : segments xs = x :: xs') (hy : segments ys = y :: ys') :
    combineUri (xs ++ ys) = combineUri [combineUri xs, combineUri ys] := by
  have parted : segments (xs ++ ys) = x :: (xs' ++ y :: ys') := by
    rw [segments_append, hx, hy, List.cons_append]
  have both : segments [combineUri xs, combineUri ys] = [combineUri xs, combineUri ys] := by
    simp [segments, isSegment_combineUri hx, isSegment_combineUri hy]
  calc
    combineUri (xs ++ ys)
      = leading x ++ "/".intercalate ((x :: xs').map core ++ (y :: ys').map core) := by
      rw [combineUri_of_segments parted, ← List.map_append, List.cons_append]
    _ = leading x ++ ("/".intercalate ((x :: xs').map core) ++ "/"
          ++ "/".intercalate ((y :: ys').map core)) := by
      rw [String.intercalate_append_of_ne_nil (by simp) (by simp)]
    _ = leading (combineUri xs)
          ++ "/".intercalate [core (combineUri xs), core (combineUri ys)] := by
      rw [leading_combineUri hx, core_combineUri hx, core_combineUri hy,
        String.intercalate_cons_cons, String.intercalate_singleton]
    _ = combineUri [combineUri xs, combineUri ys] := (combineUri_of_segments both).symm

end Groups

/-- Parts may be joined in groups. What is joined ends in no slash and is empty just where all parts
are slashes; else it begins with the slashes of the first other part, and one slash parts the
cores. -/
theorem combineUri_append (xs ys : List String) :
    combineUri (xs ++ ys) = combineUri [combineUri xs, combineUri ys] ∧
      Joins xs (combineUri xs) := by
  refine ⟨?_, joins_combineUri xs⟩
  cases hx : segments xs with
  | nil => exact combineUri_append_left hx
  | cons x xs' =>
    cases hy : segments ys with
    | nil => exact combineUri_append_right hy
    | cons y ys' => exact combineUri_append_of_segments hx hy

end ServiceClient.Url

import ServiceClient.Proofs.Pointwise

namespace ServiceClient.Text

def pieces (separator : List Char) (rest : Nat) : List Char → List (List Char)
  | [] => [[]]
  | c :: cs =>
    -- Of a separator that was found, `rest` characters are still to be passed over.
    match rest with
    | rest + 1 => pieces separator rest cs
    | 0 =>
      if separator.isPrefixOf (c :: cs) then [] :: pieces separator (separator.length - 1) cs
      else (pieces separator 0 cs).modifyHead (c :: ·)

def split (separator text : String) : List String :=
  (pieces separator.toList 0 text.toList).map String.ofList

def listed (separator text : String) : List String :=
  if text = "" then [] else split separator text

def before (separator text : String) : String := (split separator text).headD ""

section Pieces

variable {d : Char} {ds : List Char}

theorem pieces_length_append (separator cs ds : List Char) :
    pieces separator ds.length (ds ++ cs) = pieces separator 0 cs := by
  induction ds with
  | nil => rfl
  | cons d ds ih => simpa [pieces] using ih

theorem pieces_separator (cs : List Char) :
    pieces (d :: ds) 0 (d :: ds ++ cs) = [] :: pieces (d :: ds) 0 cs := by
  simp [pieces, pieces_length_append]

theorem pieces_cons {c : Char} (cs : List Char) (h : c ≠ d) :
    pieces (d :: ds) 0 (c :: cs) = (pieces (d :: ds) 0 cs).modifyHead (c :: ·) := by
  simp [pieces, Ne.symm h]

theorem pieces_of_not_mem {piece : List Char} (h : d ∉ piece) :
    pieces (d :: ds) 0 piece = [piece] := by
  induction piece with
  | nil => rfl
  | cons c cs ih =>
    rw [List.mem_cons, not_or] at h
    rw [pieces_cons cs (Ne.symm h.1), ih h.2]
    rfl

theorem pieces_append {piece : List Char} (cs : List Char) (h : d ∉ piece) :
    pieces (d :: ds) 0 (piece ++ (d :: ds ++ cs)) = piece :: pieces (d :: ds) 0 cs := by
  induction piece with
  | nil => exact pieces_separator cs
  | cons c piece ih =>
    rw [List.mem_cons, not_or] at h
    rw [List.cons_append, pieces_cons _ (Ne.symm h.1), ih h.2]
    rfl

theorem pieces_intercalate {parts : List (List Char)} (hne : parts ≠ [])
    (h : ∀ part ∈ parts, d ∉ part) : pieces (d :: ds) 0 ((d :: ds).intercalate parts) = parts := by
  induction parts with
  | nil => contradiction
  | cons part parts ih =>
    rw [List.forall_mem_cons] at h
    cases parts with
    | nil => rw [List.intercalate_singleton, pieces_of_not_mem h.1]
    | cons next parts =>
      rw [List.intercalate_cons_cons, List.append_assoc, pieces_append _ h.1,
        ih (List.cons_ne_nil _ _) h.2]

theorem pieces_ne_nil (separator : List Char) (rest : Nat) (cs : List Char) :
    pieces separator rest cs ≠ [] := by
  induction cs generalizing rest with
  | nil => exact List.cons_ne_nil _ _
  | cons c cs ih =>
    cases rest with
    | succ rest => exact ih rest
    | zero =>
      rw [pieces]
      split
      · exact List.cons_ne_nil _ _
      · rw [Ne, List.modifyHead_eq_nil_iff]
        exact ih 0

theorem pieces_append_cons (as bs : List Char) :
    pieces [d] 0 (as ++ d :: bs) = pieces [d] 0 as ++ pieces [d] 0 bs := by
  induction as with
  | nil => exact pieces_separator bs
  | cons a as ih =>
    by_cases same : a = d
    · subst same
      calc
        pieces [a] 0 (a :: (as ++ a :: bs)) = [] :: pieces [a] 0 (as ++ a :: bs) :=
          pieces_separator _
        _ = [] :: pieces [a] 0 as ++ pieces [a] 0 bs := by rw [ih, List.cons_append]
        _ = pieces [a] 0 (a :: as) ++ pieces [a] 0 bs :=
          congrArg (· ++ _) (pieces_separator as).symm
    · rw [List.cons_append, pieces_cons _ same, pieces_cons _ same, ih]
      obtain ⟨piece, others, first⟩ := List.exists_cons_of_ne_nil (pieces_ne_nil [d] 0 as)
      rw [first]
      rfl

end Pieces

theorem intercalate_cons_ne_empty {separator text : String} {texts : List String}
    (filled : text ≠ "") : separator.intercalate (text :: texts) ≠ "" := by
  cases texts with
  | nil => rwa [String.intercalate_singleton]
  | cons _ _ => simp [String.intercalate_cons_cons, filled]

section Texts

variable {separator : String} {d : Char} {ds : List Char} (hs : separator.toList = d :: ds)
include hs

theorem split_intercalate {texts : List String} (hne : texts ≠ [])
    (h : ∀ text ∈ texts, d ∉ text.toList) :
    split separator (separator.intercalate texts) = texts := by
  rw [split, String.toList_intercalate, hs,
    pieces_intercalate (by simpa using hne) (by simpa using h),
    List.map_map]
  simp [Function.comp_def]

theorem before_append {text : String} (rest : String) (h : d ∉ text.toList) :
    before separator (text ++ separator ++ rest) = text := by
  rw [before, split, String.toList_append, String.toList_append, hs, List.append_assoc,
    pieces_append _ h, List.map_cons, String.ofList_toList]
  rfl

theorem listed_intercalate {texts : List String} (filled : ∀ text ∈ texts, text ≠ "")
    (h : ∀ text ∈ texts, d ∉ text.toList) :
    listed separator (separator.intercalate texts) = texts := by
  cases texts with
  | nil => rfl
  | cons text texts =>
    have found : separator.intercalate (text :: texts) ≠ "" :=
      intercalate_cons_ne_empty (filled text List.mem_cons_self)
    rw [listed, if_neg found, split_intercalate hs (List.cons_ne_nil text texts) h]

end Texts

section Lines

variable {separator : String} {d : Char} (hs : separator.toList = [d])
include hs

theorem split_append (a b : String) :
    split separator (a ++ separator ++ b) = split separator a ++ split separator b := by
  rw [split, split, split, String.toList_append, String.toList_append, hs, List.append_assoc,
    List.singleton_append, pieces_append_cons, List.map_append]

theorem split_join_append (lines : List String) (rest : String) :
    split separator (String.join (lines.map (· ++ separator)) ++ rest) =
      lines.flatMap (split separator) ++ split separator rest := by
  induction lines with
  | nil => simp
  | cons line lines ih =>
    rw [List.map_cons, String.join_cons, String.append_assoc, split_append hs, ih,
      List.flatMap_cons, List.append_assoc]

theorem split_eq_singleton_iff {text : String} :
    split separator text = [text] ↔ d ∉ text.toList := by
  constructor
  · intro one member
    obtain ⟨before, after, whole⟩ := List.append_of_mem member
    have several := congrArg List.length one
    rw [split, hs, whole, pieces_append_cons] at several
    have first := List.length_pos_iff.2 (pieces_ne_nil [d] 0 before)
    have second := List.length_pos_iff.2 (pieces_ne_nil [d] 0 after)
    simp only [List.length_map, List.length_append, List.length_singleton] at several
    omega
  · intro h
    rw [split, hs, pieces_of_not_mem h, List.map_singleton, String.ofList_toList]

end Lines

structure Item (d : Char) (mark name text : String) : Prop where
  filled : text ≠ ""
  whole : d ∉ text.toList
  before : Text.before mark text = name

section Items

variable {separator mark : String} {d : Char} {ds : List Char} {names texts : List String}
  (hs : separator.toList = d :: ds) (h : List.Forall₂ (Item d mark) names texts)
include hs h

theorem listed_of_items : listed separator (separator.intercalate texts) = texts := by
  refine listed_intercalate hs (fun text htext => ?_) fun text htext => ?_
  · obtain ⟨name, _, item⟩ := Pointwise.exists_of_mem h htext
    exact item.filled
  · obtain ⟨name, _, item⟩ := Pointwise.exists_of_mem h htext
    exact item.whole

theorem names_of_items :
    (listed separator (separator.intercalate texts)).map (Text.before mark) = names := by
  rw [listed_of_items hs h]
  have same := Pointwise.map_eq h (f := id) (g := Text.before mark) fun _ _ item => item.before.symm
  rw [← same, List.map_id]

theorem intercalate_ne_empty_iff : separator.intercalate texts ≠ "" ↔ names ≠ [] := by
  have same := names_of_items hs h
  constructor
  · rintro filled rfl
    cases h
    contradiction
  · rintro some empty
    rw [empty] at same
    exact some same.symm

end Items

end ServiceClient.Text

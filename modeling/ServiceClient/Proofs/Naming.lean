import Mathlib.Data.List.Infix
import Mathlib.Data.List.TakeWhile
import ServiceClient.Naming

namespace ServiceClient.Naming

open Text

def KeepsFold (c : Char) : Prop := (upperChar c).flatMap foldChar = foldChar c

instance : DecidablePred KeepsFold := fun _ => inferInstanceAs (Decidable (_ = _))

/-- Whether a name is one word, which only changes its case where it begins with a capital. -/
def IsWord (name : String) : Prop :=
  (∀ c ∈ name.toList, isSeparator c = false) ∧ ∀ c ∈ name.toList.head?, KeepsFold c

instance : DecidablePred IsWord := fun name =>
  decidable_of_iff
    (name.toList.all (!isSeparator ·) = true ∧ name.toList.head?.all (decide <| KeepsFold ·) = true)
    (by simp [IsWord, Option.all_eq_true])

theorem words_of_no_separator {cs : List Char} (hne : cs ≠ [])
    (h : ∀ c ∈ cs, isSeparator c = false) : words cs = [cs] := by
  induction cs with
  | nil => contradiction
  | cons c cs ih =>
    rw [List.forall_mem_cons] at h
    rw [words, h.1, if_neg Bool.false_ne_true]
    cases cs with
    | nil => rfl
    | cons d ds =>
      have inside : beginsInWord (d :: ds) = true := by
        simp [beginsInWord, h.2 d List.mem_cons_self]
      rw [inside, ih (List.cons_ne_nil d ds) h.2]

theorem flatten_words (cs : List Char) : (words cs).flatten = cs.filter (!isSeparator ·) := by
  fun_induction words cs with
  | case1 => rfl
  | case2 c cs separator ih => simp [separator, ih]
  | case3 c cs inside w ws rest begins ih =>
    rw [rest] at ih
    simp [inside, ← ih]
  | case4 c cs inside apart ih => simp [inside, ih]

theorem flatMap_joined {α : Type} {f : Char → List α} {cs : List Char}
    (h : ∀ w ∈ words cs, ∀ c ∈ w.head?, (upperChar c).flatMap f = f c) :
    (joined cs).flatMap f = (cs.filter (!isSeparator ·)).flatMap f := by
  have each : ∀ w ∈ words cs, (capitalized w).flatMap f = w.flatMap f := by
    intro w hw
    cases w with
    | nil => rfl
    | cons c w =>
      have first : (upperChar c).flatMap f = f c := h _ hw c rfl
      rw [capitalized, List.flatMap_append, first, List.flatMap_cons]
  rw [joined, List.flatMap_assoc, List.flatMap_congr each, ← flatten_words, List.flatten_eq_flatMap,
    List.flatMap_assoc]
  rfl

theorem fold_joined {cs : List Char} (word : ∀ c ∈ cs, isSeparator c = false)
    (head : ∀ c ∈ cs.head?, KeepsFold c) : (joined cs).flatMap foldChar = cs.flatMap foldChar := by
  have whole : cs.filter (!isSeparator ·) = cs := List.filter_eq_self.2 (by simpa using word)
  rw [flatMap_joined, whole]
  intro w hw
  cases cs with
  | nil => simp [words] at hw
  | cons c cs =>
    rw [words_of_no_separator (List.cons_ne_nil c cs) word, List.mem_singleton] at hw
    rw [hw]
    exact head

theorem isUpper_iff {c : Char} : c.isUpper = true ↔ 65 ≤ c.toNat ∧ c.toNat ≤ 90 :=
  decide_eq_true_iff

theorem toNat_toLower {c : Char} (h : c.isUpper = true) : c.toLower.toNat = c.toNat + 32 := by
  have range := isUpper_iff.1 h
  have moved : c.toLower.toNat = (c.toNat + 32) % 2 ^ 32 := by
    delta Char.toLower
    rw [dif_pos (of_decide_eq_true h)]
    rfl
  omega

theorem toLower_of_not_isUpper {c : Char} (h : c.isUpper ≠ true) : c.toLower = c :=
  dif_neg fun range => h (decide_eq_true range)

theorem foldChar_toLower {c : Char} (h : c.isUpper = true) : foldChar c.toLower = foldChar c := by
  have range := isUpper_iff.1 h
  have moved := toNat_toLower h
  have small : c.toLower.isUpper ≠ true := by
    rw [Ne, isUpper_iff]
    omega
  rw [foldChar_of_lt (by omega), foldChar_of_lt (by omega), toLower_of_not_isUpper small]

theorem flatMap_lowered {α : Type} {f : Char → List α}
    (h : ∀ c : Char, c.isUpper = true → f c.toLower = f c) (cs : List Char) :
    (lowered cs).flatMap f = cs.flatMap f := by
  have small : ∀ ds : List Char, (∀ c ∈ ds, c.isUpper = true) →
      (ds.map Char.toLower).flatMap f = ds.flatMap f := by
    intro ds capitals
    rw [List.flatMap_map]
    exact List.flatMap_congr fun c hc => h c (capitals c hc)
  have capitals : ∀ c ∈ cs.takeWhile Char.isUpper, c.isUpper = true :=
    fun c hc => List.mem_takeWhile_imp hc
  have whole := List.takeWhile_append_dropWhile (p := Char.isUpper) (l := cs)
  rw [lowered]
  split
  · rw [List.flatMap_append, small _ capitals, ← List.flatMap_append, whole]
  · -- The last capital of the run stays.
    have initial : ∀ c ∈ (cs.takeWhile Char.isUpper).dropLast, c.isUpper = true :=
      fun c hc => capitals c (List.mem_of_mem_dropLast hc)
    rw [List.flatMap_append, List.flatMap_append, small _ initial, ← List.flatMap_append,
      ← List.flatMap_append, List.dropLast_eq_take, List.take_append_drop, whole]

theorem fold_camelize {name : String} (h : IsWord name) : fold (camelize name) = fold name := by
  rw [fold, fold, camelize, String.toList_ofList, flatMap_lowered fun _ => foldChar_toLower,
    fold_joined h.1 h.2]

theorem fold_eq_of_camelize_eq {name name' : String} (h : IsWord name) (h' : IsWord name')
    (same : camelize name = camelize name') : fold name = fold name' := by
  rw [← fold_camelize h, ← fold_camelize h', same]

end ServiceClient.Naming

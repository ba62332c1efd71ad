import Mathlib
import ServiceClient.Proofs.Naming

namespace ServiceClient.Text

def bits : List Nat → Nat
  | [] => 0
  | n :: ns => 1 <<< n ||| bits ns

@[simp] theorem testBit_bits {ns : List Nat} {n : Nat} : (bits ns).testBit n = true ↔ n ∈ ns := by
  induction ns with
  | nil => simp [bits]
  | cons m ns ih =>
    simp only [bits, Nat.testBit_or, Bool.or_eq_true, Nat.shiftLeft_eq, Nat.one_mul,
      Nat.testBit_two_pow, decide_eq_true_eq, ih, List.mem_cons]
    exact or_congr_left eq_comm

theorem not_mem_of_bits {ns ms : List Nat} {n : Nat} (apart : bits ns &&& bits ms = 0)
    (hn : n ∈ ns) : n ∉ ms := by
  intro hm
  have common : (bits ns &&& bits ms).testBit n = true := by simp [hn, hm]
  simp [apart] at common

def CaseRun.members (r : CaseRun) : List Nat :=
  (List.range ((r.last - r.first) / r.step + 1)).map (r.first + r.step * ·)

theorem CaseRun.mem_members {r : CaseRun} {n : Nat} (h : r.covers n = true) : n ∈ r.members := by
  simp only [covers, Bool.and_eq_true, decide_eq_true_eq, beq_iff_eq] at h
  obtain ⟨⟨first, last⟩, spaced⟩ := h
  apply List.mem_map.2
  refine ⟨(n - r.first) / r.step, ?_, ?_⟩
  · apply List.mem_range.2
    exact Nat.lt_succ_of_le (Nat.div_le_div_right (by omega))
  · rw [Nat.mul_div_cancel' (Nat.dvd_of_mod_eq_zero spaced)]
    omega

namespace CaseTable

def sources (t : CaseTable) : List Nat :=
  t.runs.flatMap CaseRun.members ++ t.expansions.map (·.1)

def images (t : CaseTable) : List (List Nat) :=
  (t.runs.flatMap fun r => r.members.map fun n => [r.move n]) ++ t.expansions.map (·.2)

theorem image_cases (t : CaseTable) (n : Nat) :
    (n ∈ t.sources ∧ t.image n ∈ t.images) ∨ t.image n = [n] := by
  rw [image]
  cases run : t.runs.find? (CaseRun.covers · n) with
  | some r =>
    have listed := List.mem_of_find?_eq_some run
    have member := CaseRun.mem_members (List.find?_some (p := (CaseRun.covers · n)) run)
    left
    constructor
    · apply List.mem_append_left
      exact List.mem_flatMap.2 ⟨r, listed, member⟩
    · apply List.mem_append_left
      exact List.mem_flatMap.2 ⟨r, listed, List.mem_map_of_mem member⟩
  | none =>
    cases expansion : t.expansions.lookup n with
    | none => exact .inr rfl
    | some image =>
      obtain ⟨before, after, split, -⟩ := List.lookup_eq_some_iff.1 expansion
      left
      simp [sources, images, split]

theorem image_of_not_mem {t : CaseTable} {n : Nat} (h : n ∉ t.sources) : t.image n = [n] := by
  rcases t.image_cases n with ⟨listed, -⟩ | same
  · contradiction
  · exact same

end CaseTable

def separators : List Nat :=
  0x5F :: 0x2D :: blankRanges.flatMap fun r => List.range' r.1 (r.2 + 1 - r.1)

theorem mem_separators {c : Char} (h : Naming.isSeparator c = true) : c.toNat ∈ separators := by
  simp only [Naming.isSeparator, Bool.or_eq_true, beq_iff_eq] at h
  rcases h with (rfl | rfl) | blank
  · simp [separators]
  · simp [separators]
  · obtain ⟨r, hr, inside⟩ := List.any_eq_true.1 blank
    simp only [Bool.and_eq_true, decide_eq_true_eq] at inside
    simp only [separators, List.mem_cons, List.mem_flatMap, List.mem_range'_1]
    exact .inr (.inr ⟨r, hr, by omega⟩)

theorem upperImages_apart :
    bits upperTable.images.flatten &&&
      bits (List.range' 0x61 26 ++ upperTable.sources ++ separators) = 0 := by
  decide +kernel

theorem upperImages_ne_nil : ∀ image ∈ upperTable.images, image ≠ [] := by
  have filled : upperTable.expansions.all (!·.2.isEmpty) = true := by decide +kernel
  intro image himage
  rcases List.mem_append.1 himage with run | expansion
  · obtain ⟨r, -, member⟩ := List.mem_flatMap.1 run
    obtain ⟨n, -, rfl⟩ := List.mem_map.1 member
    simp
  · obtain ⟨e, he, rfl⟩ := List.mem_map.1 expansion
    simpa using List.all_eq_true.1 filled e he

theorem isLower_iff {c : Char} : c.isLower = true ↔ 97 ≤ c.toNat ∧ c.toNat ≤ 122 :=
  Bool.and_eq_true_iff.trans (and_congr decide_eq_true_iff decide_eq_true_iff)

theorem isAlpha_iff {c : Char} :
    c.isAlpha = true ↔ 65 ≤ c.toNat ∧ c.toNat ≤ 90 ∨ 97 ≤ c.toNat ∧ c.toNat ≤ 122 :=
  Bool.or_eq_true_iff.trans (or_congr Naming.isUpper_iff isLower_iff)

theorem isAlphanum_iff {c : Char} :
    c.isAlphanum = true ↔ (65 ≤ c.toNat ∧ c.toNat ≤ 90 ∨ 97 ≤ c.toNat ∧ c.toNat ≤ 122) ∨
      48 ≤ c.toNat ∧ c.toNat ≤ 57 :=
  Bool.or_eq_true_iff.trans (or_congr isAlpha_iff Char.isDigit_iff_toNat)

theorem isAlphanum_of_isAlpha {c : Char} (h : c.isAlpha = true) : c.isAlphanum = true :=
  Bool.or_eq_true_iff.2 (.inl h)

theorem not_isSeparator_of_isAlphanum {c : Char} (h : c.isAlphanum = true) :
    Naming.isSeparator c = false := by
  have apart : ∀ n ∈ separators,
      ¬((65 ≤ n ∧ n ≤ 90 ∨ 97 ≤ n ∧ n ≤ 122) ∨ 48 ≤ n ∧ n ≤ 57) := by
    decide
  apply Bool.eq_false_iff.2
  intro separator
  exact apart _ (mem_separators separator) (isAlphanum_iff.1 h)

theorem not_isSeparator_of_isAlpha {c : Char} (h : c.isAlpha = true) :
    Naming.isSeparator c = false :=
  not_isSeparator_of_isAlphanum (isAlphanum_of_isAlpha h)

theorem toUpper_of_not_isAlpha {c : Char} (h : ¬c.isAlpha = true) : c.toUpper = c := by
  apply Char.toUpper_eq_of_not_isLower
  intro small
  exact h (Bool.or_eq_true_iff.2 (.inr small))

theorem not_isSeparator_toUpper {c : Char} (h : Naming.isSeparator c = false) :
    Naming.isSeparator c.toUpper = false := by
  by_cases letter : c.isAlpha = true
  · apply not_isSeparator_of_isAlpha
    rwa [Char.isAlpha_toUpper_eq_isAlpha]
  · rwa [toUpper_of_not_isAlpha letter]

theorem toNat_toUpper_lt {c : Char} (h : c.toNat < 0x80) : c.toUpper.toNat < 0x80 := by
  by_cases letter : c.isAlpha = true
  · rw [← Char.isAlpha_toUpper_eq_isAlpha, isAlpha_iff] at letter
    omega
  · rwa [toUpper_of_not_isAlpha letter]

theorem upperChar_eq_self {c : Char} (large : ¬c.isLower = true)
    (unlisted : c.toNat ∉ upperTable.sources) : upperChar c = [c] := by
  rw [upperChar]
  split
  · rw [Char.toUpper_eq_of_not_isLower large]
  · rw [CaseTable.image_of_not_mem unlisted, List.map_singleton, Char.ofNat_toNat]

theorem upperChar_cases (c : Char) :
    (c.toNat < 0x80 ∧ upperChar c = [c.toUpper]) ∨ upperChar c = [c] ∨
      ∃ image ∈ upperTable.images, upperChar c = image.map Char.ofNat := by
  rw [upperChar]
  split
  · next seven => exact .inl ⟨seven, rfl⟩
  · rcases upperTable.image_cases c.toNat with ⟨-, listed⟩ | same
    · exact .inr (.inr ⟨_, listed, rfl⟩)
    · rw [same, List.map_singleton, Char.ofNat_toNat]
      exact .inr (.inl rfl)

theorem upperImages_spec {image : List Nat} (h : image ∈ upperTable.images) {n : Nat}
    (hn : n ∈ image) :
    upperChar (.ofNat n) = [.ofNat n] ∧ Naming.isSeparator (.ofNat n) = false := by
  have apart := not_mem_of_bits upperImages_apart (List.mem_flatten.2 ⟨image, h, hn⟩)
  simp only [List.mem_append, not_or] at apart
  obtain ⟨⟨small, unlisted⟩, separator⟩ := apart
  by_cases valid : n.isValidChar
  · have value : (Char.ofNat n).toNat = n := by rw [Char.toNat_ofNat, if_pos valid]
    rw [← value] at small unlisted separator
    constructor
    · apply upperChar_eq_self _ unlisted
      rw [isLower_iff]
      simp only [List.mem_range'_1] at small
      omega
    · exact Bool.eq_false_iff.2 (mt mem_separators separator)
  · have null : Char.ofNat n = '\x00' := dif_neg valid
    rw [null]
    constructor <;> decide +kernel

theorem upperChar_upper {c d : Char} (h : d ∈ upperChar c) : upperChar d = [d] := by
  rcases upperChar_cases c with ⟨seven, same⟩ | same | ⟨image, listed, same⟩
  · obtain rfl : d = c.toUpper := by simpa [same] using h
    rw [upperChar_of_lt (toNat_toUpper_lt seven), Char.toUpper_toUpper_eq_toUpper]
  · obtain rfl : d = c := by simpa [same] using h
    exact same
  · rw [same] at h
    obtain ⟨n, hn, rfl⟩ := List.mem_map.1 h
    exact (upperImages_spec listed hn).1

theorem upperChar_ne_nil (c : Char) : upperChar c ≠ [] := by
  rcases upperChar_cases c with ⟨-, same⟩ | same | ⟨image, listed, same⟩
  · simp [same]
  · simp [same]
  · simp [same, upperImages_ne_nil image listed]

theorem not_isSeparator_upperChar {c d : Char} (h : Naming.isSeparator c = false)
    (hd : d ∈ upperChar c) : Naming.isSeparator d = false := by
  rcases upperChar_cases c with ⟨-, same⟩ | same | ⟨image, listed, same⟩
  · obtain rfl : d = c.toUpper := by simpa [same] using hd
    exact not_isSeparator_toUpper h
  · obtain rfl : d = c := by simpa [same] using hd
    exact h
  · rw [same] at hd
    obtain ⟨n, hn, rfl⟩ := List.mem_map.1 hd
    exact (upperImages_spec listed hn).2

end ServiceClient.Text

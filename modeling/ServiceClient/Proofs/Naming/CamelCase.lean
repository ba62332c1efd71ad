import ServiceClient.Proofs.Text.Case

namespace ServiceClient.Naming

open Text

theorem isSeparator_eq_false_iff {c : Char} :
    isSeparator c = false ↔ c ≠ '_' ∧ c ≠ '-' ∧ isBlank c = false := by
  simp [isSeparator, and_assoc]

theorem mem_words {cs w : List Char} (h : w ∈ words cs) :
    w ≠ [] ∧ ∀ c ∈ w, isSeparator c = false := by
  fun_induction words cs generalizing w with
  | case1 => simp at h
  | case2 c cs separator ih => exact ih h
  | case3 c cs inside v vs rest begins ih =>
    rcases List.mem_cons.1 h with rfl | later
    · have word := ih (w := v) (by simp [rest])
      simpa [inside] using word.2
    · apply ih
      simp [rest, later]
  | case4 c cs inside apart ih =>
    rcases List.mem_cons.1 h with rfl | later
    · simpa using inside
    · exact ih later

structure IsJoined (cs : List Char) : Prop where
  inside : ∀ c ∈ cs, isSeparator c = false
  head : ∀ c ∈ cs.head?, upperChar c = [c]

theorem IsJoined.joined {cs : List Char} (h : IsJoined cs) : joined cs = cs := by
  cases cs with
  | nil => rfl
  | cons c cs =>
    have first : upperChar c = [c] := h.head c rfl
    rw [Naming.joined, words_of_no_separator (List.cons_ne_nil c cs) h.inside]
    simp [capitalized, first]

theorem isJoined_joined (cs : List Char) : IsJoined (joined cs) := by
  constructor
  · intro d hd
    obtain ⟨w, hw, hd⟩ := List.mem_flatMap.1 hd
    obtain ⟨-, inside⟩ := mem_words hw
    cases w with
    | nil => simp [capitalized] at hd
    | cons c w =>
      rcases List.mem_append.1 hd with first | later
      · exact not_isSeparator_upperChar (inside c (by simp)) first
      · exact inside d (by simp [later])
  · intro d hd
    rw [joined] at hd
    cases hwords : words cs with
    | nil => simp [hwords] at hd
    | cons w ws =>
      have first : w ∈ words cs := hwords ▸ List.mem_cons_self
      have filled : w ≠ [] := (mem_words first).1
      cases w with
      | nil => contradiction
      | cons c w =>
        apply upperChar_upper (c := c)
        rw [hwords, List.flatMap_cons, capitalized, List.append_assoc,
          List.head?_append_of_ne_nil _ (upperChar_ne_nil c)] at hd
        exact List.mem_of_mem_head? hd

theorem lowered_cases (cs : List Char) :
    (lowered cs = cs ∧ ∀ c ∈ cs.head?, c.isUpper = false) ∨
      ∃ c rest, c.isUpper = true ∧ lowered cs = c.toLower :: rest ∧
        (cs = c :: rest ∨ ∀ d ∈ rest.head?, d.isUpper = false) := by
  have whole := List.takeWhile_append_dropWhile (p := Char.isUpper) (l := cs)
  have capitals : ∀ c ∈ cs.takeWhile Char.isUpper, c.isUpper = true :=
    fun c hc => List.mem_takeWhile_imp hc
  have stops := List.head?_dropWhile_not Char.isUpper cs
  rw [lowered]
  generalize cs.takeWhile Char.isUpper = run at whole capitals ⊢
  generalize cs.dropWhile Char.isUpper = rest at whole stops ⊢
  subst whole
  rcases run with _ | ⟨c, _ | ⟨d, run⟩⟩
  · left
    cases rest with
    | nil => simp
    | cons c rest => simpa using stops
  · right
    exact ⟨c, rest, capitals c (by simp), by simp, .inl (by simp)⟩
  · right
    have first : c.isUpper = true := capitals c (by simp)
    by_cases ended : rest = []
    · exact ⟨c, (d :: run).map Char.toLower, first, by simp [ended], .inr (by simp)⟩
    · cases run with
      | nil => exact ⟨c, d :: rest, first, by simp [ended], .inl (by simp)⟩
      | cons e run =>
        refine ⟨c, d.toLower :: ((e :: run).dropLast.map Char.toLower
          ++ (e :: run).drop run.length ++ rest), first, ?_, .inr (by simp)⟩
        simp [ended]

theorem lowered_of_not_isUpper {c : Char} {rest : List Char} (first : c.isUpper = true)
    (second : ∀ d ∈ rest.head?, d.isUpper = false) : lowered (c :: rest) = c.toLower :: rest := by
  have run : (c :: rest).takeWhile Char.isUpper = [c] := by
    cases rest with
    | nil => simp [first]
    | cons d rest => simpa [first] using second
  have after : (c :: rest).dropWhile Char.isUpper = rest := by
    cases rest with
    | nil => simp [first]
    | cons d rest => simpa [first] using second
  simp [lowered, run, after]

theorem mem_lowered {cs : List Char} {d : Char} (h : d ∈ lowered cs) :
    d ∈ cs ∨ ∃ c ∈ cs, c.isUpper = true ∧ d = c.toLower := by
  have capitals : ∀ c ∈ cs.takeWhile Char.isUpper, c ∈ cs ∧ c.isUpper = true :=
    fun c hc => ⟨(List.takeWhile_prefix _).subset hc, List.mem_takeWhile_imp hc⟩
  have tail : ∀ c ∈ cs.dropWhile Char.isUpper, c ∈ cs :=
    fun c hc => (List.dropWhile_suffix _).subset hc
  rw [lowered] at h
  split at h
  · rcases List.mem_append.1 h with run | rest
    · obtain ⟨c, hc, rfl⟩ := List.mem_map.1 run
      exact .inr ⟨c, (capitals c hc).1, (capitals c hc).2, rfl⟩
    · exact .inl (tail d rest)
  · rcases List.mem_append.1 h with run | rest
    · rcases List.mem_append.1 run with run | last
      · obtain ⟨c, hc, rfl⟩ := List.mem_map.1 run
        have capital := capitals c (List.mem_of_mem_dropLast hc)
        exact .inr ⟨c, capital.1, capital.2, rfl⟩
      · exact .inl (capitals d (List.mem_of_mem_drop last)).1
    · exact .inl (tail d rest)

theorem isAlpha_of_isUpper {c : Char} (h : c.isUpper = true) : c.isAlpha = true :=
  Bool.or_eq_true_iff.2 (.inl h)

theorem isSeparator_lowered {cs : List Char} (inside : ∀ c ∈ cs, isSeparator c = false) :
    ∀ d ∈ lowered cs, isSeparator d = false := by
  intro d hd
  rcases mem_lowered hd with kept | ⟨c, -, capital, rfl⟩
  · exact inside d kept
  · apply not_isSeparator_of_isAlpha
    rw [Char.isAlpha_toLower_eq_isAlpha, isAlpha_of_isUpper capital]

theorem upperChar_toLower {c : Char} (h : c.isUpper = true) : upperChar c.toLower = [c] := by
  have seven : c.toLower.toNat < 0x80 := by
    have letter : c.toLower.isAlpha = true := by
      rw [Char.isAlpha_toLower_eq_isAlpha, isAlpha_of_isUpper h]
    rw [isAlpha_iff] at letter
    omega
  rw [upperChar_of_lt seven, Char.toUpper_toLower_eq_toUpper,
    Char.toUpper_eq_of_not_isLower (Char.not_isLower_of_isUpper h)]

theorem IsJoined.lowered_joined_lowered {cs : List Char} (h : IsJoined cs) :
    lowered (Naming.joined (lowered cs)) = lowered cs := by
  rcases lowered_cases cs with ⟨same, -⟩ | ⟨c, rest, first, same, second⟩
  · rw [same, h.joined, same]
  · have inside := isSeparator_lowered h.inside
    rw [same] at inside ⊢
    have capital : Naming.joined (c.toLower :: rest) = c :: rest := by
      rw [Naming.joined, words_of_no_separator (List.cons_ne_nil _ _) inside]
      simp [capitalized, upperChar_toLower first]
    rw [capital]
    rcases second with rfl | small
    · exact same
    · exact lowered_of_not_isUpper first small

theorem isUpper_head_lowered (cs : List Char) : ∀ c ∈ (lowered cs).head?, c.isUpper = false := by
  rcases lowered_cases cs with ⟨same, first⟩ | ⟨c, rest, -, same, -⟩
  · rwa [same]
  · simp [same]

/-- A name in camel case has no separators and does not begin with a capital. To put it into camel
case again changes nothing, and it does not matter whether the words were joined before. -/
theorem camelize_normal (text : String) :
    (∀ c ∈ (camelize text).toList, c ≠ '_' ∧ c ≠ '-' ∧ isBlank c = false) ∧
    (∀ c ∈ (camelize text).toList.head?, c.isUpper = false) ∧
    camelize (camelize text) = camelize text ∧
    camelize (pascalize text) = camelize text := by
  have normal := isJoined_joined text.toList
  simp only [camelize, pascalize, String.toList_ofList]
  refine ⟨?_, isUpper_head_lowered _, ?_, ?_⟩
  · intro c hc
    exact isSeparator_eq_false_iff.1 (isSeparator_lowered normal.inside c hc)
  · rw [normal.lowered_joined_lowered]
  · rw [normal.joined]

end ServiceClient.Naming

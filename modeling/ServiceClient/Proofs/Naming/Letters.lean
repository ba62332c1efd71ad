import ServiceClient.Proofs.Naming.CamelCase

namespace ServiceClient.Naming

open Text

def IsSevenBit (text : String) : Prop := ∀ c ∈ text.toList, c.toNat < 0x80

instance : DecidablePred IsSevenBit := fun text =>
  decidable_of_iff (text.toList.all (·.toNat < 0x80) = true) (by simp [IsSevenBit])

def withoutSeparators (text : String) : String := .ofList (text.toList.filter (!isSeparator ·))

@[simp] theorem toList_withoutSeparators (text : String) :
    (withoutSeparators text).toList = text.toList.filter (!isSeparator ·) := by
  simp [withoutSeparators]

@[simp] theorem toList_toLower (text : String) :
    text.toLower.toList = text.toList.map Char.toLower := by
  simp [String.toLower]

theorem apply_toLower {f : Char → Bool} {b : Bool} (letters : ∀ c, c.isAlpha = true → f c = b)
    (c : Char) : f c.toLower = f c := by
  by_cases capital : c.isUpper = true
  · have letter := isAlpha_of_isUpper capital
    rw [letters c letter, letters c.toLower]
    rwa [Char.isAlpha_toLower_eq_isAlpha]
  · rw [toLower_of_not_isUpper capital]

theorem isSeparator_toLower (c : Char) : isSeparator c.toLower = isSeparator c :=
  apply_toLower (fun _ => not_isSeparator_of_isAlpha) c

theorem keepsFold_of_lt {c : Char} (h : c.toNat < 0x80) : KeepsFold c := by
  rw [KeepsFold, upperChar_of_lt h, List.flatMap_singleton, foldChar_of_lt (toNat_toUpper_lt h),
    foldChar_of_lt h, Char.toLower_toUpper_eq_toLower]

theorem isWord_of_isSevenBit {text : String} (seven : IsSevenBit text)
    (whole : withoutSeparators text = text) : IsWord text := by
  constructor
  · have kept := congrArg String.toList whole
    rw [toList_withoutSeparators, List.filter_eq_self] at kept
    simpa using kept
  · intro c hc
    exact keepsFold_of_lt (seven c (List.mem_of_mem_head? hc))

theorem map_toLower_camelize {text : String} (seven : IsSevenBit text) :
    (camelize text).toList.map Char.toLower =
      (text.toList.filter (!isSeparator ·)).map Char.toLower := by
  have capital : ∀ w ∈ words text.toList, ∀ c ∈ w.head?,
      (upperChar c).flatMap (fun d => [d.toLower]) = [c.toLower] := by
    intro w hw c hc
    have inside : c ∈ text.toList := by
      have kept : c ∈ (words text.toList).flatten :=
        List.mem_flatten.2 ⟨w, hw, List.mem_of_mem_head? hc⟩
      rw [flatten_words] at kept
      exact List.mem_of_mem_filter kept
    rw [upperChar_of_lt (seven c inside), List.flatMap_singleton, Char.toLower_toUpper_eq_toLower]
  rw [camelize, String.toList_ofList, List.map_eq_flatMap, List.map_eq_flatMap,
    flatMap_lowered (fun c _ => by rw [Char.toLower_toLower_eq_toLower]), flatMap_joined capital]

theorem toLower_camelize {text : String} (seven : IsSevenBit text) :
    (camelize text).toLower = withoutSeparators text.toLower := by
  apply String.toList_injective
  rw [toList_toLower, map_toLower_camelize seven, toList_withoutSeparators, toList_toLower,
    List.filter_map]
  simp [Function.comp_def, isSeparator_toLower]

/-- In camel case a text of seven bits loses its separators and changes its case, and nothing else
becomes of it: its letters and digits are all there, once and in order. So of two such words that
differ in more than their case no name is made twice. -/
theorem camelize_keeps_letters {text : String} (seven : IsSevenBit text) :
    (camelize text).toLower = withoutSeparators text.toLower ∧
    (camelize text).toLower.toList.filter Char.isAlphanum =
      text.toLower.toList.filter Char.isAlphanum ∧
    ∀ other, IsSevenBit other → withoutSeparators text = text → withoutSeparators other = other →
      fold text ≠ fold other → camelize text ≠ camelize other := by
  refine ⟨toLower_camelize seven, ?_, fun other seven' whole whole' differ same => ?_⟩
  · rw [toLower_camelize seven, toList_withoutSeparators, List.filter_filter]
    refine List.filter_congr fun c _ => ?_
    cases letter : c.isAlphanum with
    | true => rw [not_isSeparator_of_isAlphanum letter]; rfl
    | false => rfl
  · exact differ (fold_eq_of_camelize_eq (isWord_of_isSevenBit seven whole)
      (isWord_of_isSevenBit seven' whole') same)

theorem camelize_keeps_letters_words :
    (camelize " get_URL--id\t2_").toLower = "geturlid2" ∧
    (camelize " get_URL--id\t2_").toLower.toList.filter Char.isAlphanum = "geturlid2".toList ∧
    camelize "GetURL" ≠ camelize "GETUri" := by
  have parts : IsSevenBit " get_URL--id\t2_" := by decide +kernel
  have word : IsSevenBit "GetURL" := by decide +kernel
  obtain ⟨lower, letters, -⟩ := camelize_keeps_letters parts
  obtain ⟨-, -, apart⟩ := camelize_keeps_letters word
  refine ⟨lower.trans ?_, letters.trans ?_, apart "GETUri" ?_ ?_ ?_ ?_⟩
  · apply String.toList_injective
    rw [toList_withoutSeparators, toList_toLower]
    decide +kernel
  · rw [toList_toLower]
    decide +kernel
  all_goals decide +kernel

end ServiceClient.Naming

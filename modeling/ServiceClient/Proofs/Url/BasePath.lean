import Mathlib.Data.List.Basic
import ServiceClient.Proofs.Url.Joining
import ServiceClient.Settings.Reading

namespace ServiceClient.Url

open Text

/-- Whether a blank stands before the slashes at the end of a text, which has no blanks around it
any more. -/
def HasBlankBeforeSlashes (text : String) : Prop :=
  ∃ before c slashes, isBlank c = true ∧ (∀ d ∈ slashes, d = '/') ∧
    (trim text).toList = before ++ c :: slashes

theorem toList_normalizeBasePath (text : String) :
    (normalizeBasePath text).toList = stripEnd isSlash (trim text).toList := by
  simp [normalizeBasePath, trim]

theorem head?_normalizeBasePath (text : String) :
    ∀ c ∈ (normalizeBasePath text).toList.head?, isBlank c = false := by
  intro c hc
  rw [toList_normalizeBasePath] at hc
  apply head?_strip isBlank text.toList
  simpa [trim] using mem_head?_of_stripEnd hc

theorem getLast?_normalizeBasePath (text : String) :
    ∀ c ∈ (normalizeBasePath text).toList.getLast?, c ≠ '/' := by
  intro c hc
  rw [toList_normalizeBasePath] at hc
  exact isSlash_eq_false_iff.1 (getLast?_stripEnd isSlash _ c hc)

theorem hasBlankBeforeSlashes_iff {text : String} :
    HasBlankBeforeSlashes text ↔
      ∃ c ∈ (normalizeBasePath text).toList.getLast?, isBlank c = true := by
  rw [toList_normalizeBasePath]
  constructor
  · rintro ⟨before, c, slashes, blank, hslashes, whole⟩
    have other : c ≠ '/' := by
      rintro rfl
      contradiction
    have kept : stripEnd isSlash (trim text).toList = before ++ [c] := by
      rw [whole, List.append_cons, stripEnd_append (by simpa using other),
        stripEnd_eq_nil (by simpa using hslashes), List.append_nil]
    exact ⟨c, by rw [kept, List.getLast?_concat]; rfl, blank⟩
  · rintro ⟨c, last, blank⟩
    obtain ⟨slashes, hslashes, whole⟩ := exists_append_stripEnd isSlash (trim text).toList
    obtain ⟨before, kept⟩ := List.getLast?_eq_some_iff.1 last
    refine ⟨before, c, slashes, blank, by simpa using hslashes, ?_⟩
    rw [whole, kept, List.append_assoc, List.singleton_append]

theorem isBlank_getLast?_iff {text : String} :
    (∀ c ∈ (normalizeBasePath text).toList.getLast?, isBlank c = false) ↔
      ¬HasBlankBeforeSlashes text := by
  rw [hasBlankBeforeSlashes_iff]
  simp

theorem normalizeBasePath_eq_self_iff {text : String} :
    normalizeBasePath text = text ↔ (∀ c ∈ text.toList.head?, isBlank c = false) ∧
      (∀ c ∈ text.toList.getLast?, isBlank c = false) ∧ ∀ c ∈ text.toList.getLast?, c ≠ '/' := by
  constructor
  · intro same
    -- No more is stripped of the blanks than of the blanks and the slashes, which is nothing.
    have start : text.toList <+: (trim text).toList := by
      conv_lhs => rw [← same, toList_normalizeBasePath]
      exact stripEnd_isPrefix isSlash _
    have trimmed : strip isBlank text.toList = text.toList := by
      refine (strip_sublist isBlank _).antisymm ?_
      simpa [trim] using start.sublist
    have last := getLast?_normalizeBasePath text
    rw [same] at last
    exact ⟨(strip_eq_self_iff.1 trimmed).1, (strip_eq_self_iff.1 trimmed).2, last⟩
  · rintro ⟨head, last, other⟩
    rw [normalizeBasePath, strip_eq_self_iff.2 ⟨head, last⟩,
      stripEnd_eq_self (by simpa using other), String.ofList_toList]

theorem normalizeBasePath_normalizeBasePath_iff (text : String) :
    normalizeBasePath (normalizeBasePath text) = normalizeBasePath text ↔
      ¬HasBlankBeforeSlashes text := by
  rw [normalizeBasePath_eq_self_iff, isBlank_getLast?_iff,
    and_iff_right (head?_normalizeBasePath text), and_iff_left (getLast?_normalizeBasePath text)]

/-- A normalised path begins with no blank and ends in no slash. It ends in no blank, and is left as
it is when it is normalised again, just if no blank stood before the slashes at the end. -/
theorem normalizeBasePath_settled_iff (text : String) (s : Settings) :
    (∀ c ∈ (normalizeBasePath text).toList.head?, isBlank c = false) ∧
    (∀ c ∈ (normalizeBasePath text).toList.getLast?, c ≠ '/') ∧
    ((∀ c ∈ (normalizeBasePath text).toList.getLast?, isBlank c = false) ↔
      ¬HasBlankBeforeSlashes text) ∧
    (normalizeBasePath (normalizeBasePath text) = normalizeBasePath text ↔
      ¬HasBlankBeforeSlashes text) ∧
    (normalizeBasePath s.apiRelativePath = s.apiRelativePath ↔
      ¬HasBlankBeforeSlashes s.basePath) :=
  ⟨head?_normalizeBasePath text, getLast?_normalizeBasePath text, isBlank_getLast?_iff,
    normalizeBasePath_normalizeBasePath_iff text,
    normalizeBasePath_normalizeBasePath_iff s.basePath⟩

/-- Settings whose base path has a blank before its last slash: the class would hold it with the
blank. -/
theorem apiRelativePath_not_settled :
    ∃ s, Settings.ofProperties {} [(.text "base_path", .text "/api /")] = .ok s ∧
      s.apiRelativePath = "/api " ∧ normalizeBasePath s.apiRelativePath = "/api" := by
  refine ⟨{ basePath := "/api /" }, ?_, ?_, ?_⟩ <;> decide +kernel

end ServiceClient.Url

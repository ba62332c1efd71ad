import ServiceClient.Proofs.Naming.Letters
import ServiceClient.TypeScript.Lexical

namespace ServiceClient

namespace TypeScript

open Naming

theorem isIdentifierStart_toLower (c : Char) : isIdentifierStart c.toLower = isIdentifierStart c :=
  apply_toLower (b := true) (fun d letter => by simp [isIdentifierStart, letter]) c

theorem isIdentifierChar_toLower (c : Char) : isIdentifierChar c.toLower = isIdentifierChar c :=
  apply_toLower (b := true)
    (fun d letter => by simp [isIdentifierChar, Text.isAlphanum_of_isAlpha letter]) c

theorem isIdentifierChars_map_toLower (cs : List Char) :
    isIdentifierChars (cs.map Char.toLower) = isIdentifierChars cs := by
  cases cs with
  | nil => rfl
  | cons c cs =>
    simp [isIdentifierChars, isIdentifierStart_toLower, isIdentifierChar_toLower,
      Function.comp_def]

theorem isIdentifierStart_of_isAlphanum {c : Char} (h : c.isAlphanum = true) :
    isIdentifierStart c = c.isAlpha := by
  have underscore : c ≠ '_' := by
    rintro rfl
    contradiction
  have dollar : c ≠ '$' := by
    rintro rfl
    contradiction
  rw [isIdentifierStart, beq_false_of_ne underscore, beq_false_of_ne dollar, Bool.or_false,
    Bool.or_false]

theorem isIdentifierChars_iff_of_isAlphanum {cs : List Char} (h : ∀ c ∈ cs, c.isAlphanum = true) :
    isIdentifierChars cs = true ↔ cs.head?.any Char.isAlpha = true := by
  cases cs with
  | nil => rfl
  | cons c cs =>
    rw [List.forall_mem_cons] at h
    have others : cs.all isIdentifierChar = true :=
      List.all_eq_true.2 fun d hd => by simp [isIdentifierChar, h.2 d hd]
    simp [isIdentifierChars, isIdentifierStart_of_isAlphanum h.1, others]

end TypeScript

namespace Naming

open TypeScript

def IsHostName (name : String) : Prop :=
  name.toList.head?.any (fun c => c.isAlpha || c == '_') = true ∧
    name.toList.all (fun c => c.isAlphanum || c == '_') = true

instance : DecidablePred IsHostName := fun _ => inferInstanceAs (Decidable (_ ∧ _))

def LeadsWithLetter (name : String) : Prop :=
  (name.toList.find? (· != '_')).any Char.isAlpha = true

instance : DecidablePred LeadsWithLetter := fun _ => inferInstanceAs (Decidable (_ = true))

theorem IsHostName.isSevenBit {name : String} (h : IsHostName name) : IsSevenBit name := by
  intro c hc
  have kind := List.all_eq_true.1 h.2 c hc
  rw [Bool.or_eq_true, beq_iff_eq, Text.isAlphanum_iff] at kind
  rcases kind with bounds | rfl
  · omega
  · decide

theorem isIdentifier_camelize {text : String} (seven : IsSevenBit text) :
    isIdentifier (camelize text) = isIdentifier (withoutSeparators text) := by
  rw [isIdentifier, isIdentifier, ← isIdentifierChars_map_toLower, map_toLower_camelize seven,
    isIdentifierChars_map_toLower, toList_withoutSeparators]

theorem IsHostName.isIdentifier_camelize_iff {name : String} (h : IsHostName name) :
    isIdentifier (camelize name) = true ↔ LeadsWithLetter name := by
  have kinds : ∀ c ∈ name.toList, c.isAlphanum = true ∨ c = '_' := by
    simpa using h.2
  have parts : name.toList.filter (!isSeparator ·) = name.toList.filter (· != '_') := by
    refine List.filter_congr fun c hc => ?_
    rcases kinds c hc with letter | rfl
    · have other : c ≠ '_' := by
        rintro rfl
        contradiction
      simp [Text.not_isSeparator_of_isAlphanum letter, other]
    · rfl
  rw [isIdentifier_camelize h.isSevenBit, isIdentifier, toList_withoutSeparators, parts,
    isIdentifierChars_iff_of_isAlphanum, List.head?_filter, LeadsWithLetter]
  intro c hc
  obtain ⟨hc, other⟩ := List.mem_filter.1 hc
  exact (kinds c hc).resolve_right (by simpa using other)

end Naming

end ServiceClient

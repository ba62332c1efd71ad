import Mathlib.Data.List.Basic
import Mathlib.Logic.ExistsUnique
import ServiceClient.TypeScript.Lexical

namespace ServiceClient.TypeScript

inductive IsDotted : List Char → Prop
  | single {cs : List Char} (identifier : isIdentifierChars cs = true) : IsDotted cs
  | dot {cs ds : List Char} (identifier : isIdentifierChars cs = true) (more : IsDotted ds) :
    IsDotted (cs ++ '.' :: ds)

structure DottedName where
  text : String
  isDotted : IsDotted text.toList

inductive Expression : Type
  | name : DottedName → Expression
  | array : Expression → Expression
  | group : Expression → Expression
  | index : Expression → Expression

/-- What an expression stands for. Parentheses stand for nothing. -/
inductive Shape : Type
  | atom : String → Shape
  | array : Shape → Shape
  | index : Shape → Shape
  deriving DecidableEq

theorem isIdentifierChar_of_isIdentifierStart {c : Char} (h : isIdentifierStart c = true) :
    isIdentifierChar c = true := by
  rw [isIdentifierStart, Bool.or_eq_true, Bool.or_eq_true] at h
  rw [isIdentifierChar, Bool.or_eq_true, Bool.or_eq_true]
  refine h.imp_left (Or.imp_left fun letter => ?_)
  change (c.isAlpha || c.isDigit) = true
  rw [letter, Bool.true_or]

theorem isIdentifierChar_of_mem {c : Char} {cs : List Char}
    (identifier : isIdentifierChars cs = true) (h : c ∈ cs) : isIdentifierChar c = true := by
  cases cs with
  | nil => contradiction
  | cons first others =>
    rw [isIdentifierChars, Bool.and_eq_true, List.all_eq_true] at identifier
    rcases List.mem_cons.1 h with rfl | later
    · exact isIdentifierChar_of_isIdentifierStart identifier.1
    · exact identifier.2 c later

theorem IsDotted.exists_getLast? {cs : List Char} (h : IsDotted cs) :
    ∃ c, cs.getLast? = some c ∧ isIdentifierChar c = true := by
  induction h with
  | @single cs identifier =>
    cases last : cs.getLast? with
    | none =>
      rw [List.getLast?_eq_none_iff.1 last] at identifier
      contradiction
    | some c => exact ⟨c, rfl, isIdentifierChar_of_mem identifier (List.mem_of_getLast? last)⟩
  | @dot cs ds identifier more ih =>
    obtain ⟨c, last, isChar⟩ := ih
    refine ⟨c, ?_, isChar⟩
    simp [List.getLast?_append, List.getLast?_cons, last]

theorem IsDotted.comma_not_mem {cs : List Char} (h : IsDotted cs) : ',' ∉ cs := by
  have single {cs : List Char} (identifier : isIdentifierChars cs = true) : ',' ∉ cs := by
    intro comma
    exact absurd (isIdentifierChar_of_mem identifier comma) (by decide)
  induction h with
  | single identifier => exact single identifier
  | dot identifier _ ih => simp [single identifier, ih]

def indexSignature (value : String) : String := "\x7b [key: string]: " ++ value ++ " \x7d"

theorem indexSignature_inj {value value' : String} :
    indexSignature value = indexSignature value' ↔ value = value' := by
  unfold indexSignature
  rw [String.append_left_inj, String.append_right_inj]

theorem getLast?_indexSignature (value : String) :
    (indexSignature value).toList.getLast? = some '\x7d' := by
  unfold indexSignature
  rw [String.toList_append, List.getLast?_append]
  rfl

namespace Expression

def text : Expression → String
  | .name n => n.text
  | .array e => e.text ++ "[]"
  | .group e => "(" ++ e.text ++ ")"
  | .index e => indexSignature e.text

def shape : Expression → Shape
  | .name n => .atom n.text
  | .array e => .array e.shape
  | .group e => e.shape
  | .index e => .index e.shape

def closing : Expression → Option Char
  | .name _ => none
  | .array _ => some ']'
  | .group _ => some ')'
  | .index _ => some '\x7d'

theorem closing_eq (e : Expression) :
    e.closing = e.text.toList.getLast?.filter (!isIdentifierChar ·) := by
  cases e with
  | name n =>
    obtain ⟨c, last, isChar⟩ := n.isDotted.exists_getLast?
    rw [text, last, Option.filter_some, isChar]
    rfl
  | array e | group e =>
    rw [text, String.toList_append, List.getLast?_append]
    rfl
  | index e =>
    rw [text, getLast?_indexSignature]
    rfl

theorem text_injective : Function.Injective text := by
  intro e e' h
  -- The last character is the same, so both are of one kind and have one text inside.
  have same : e.closing = e'.closing := by rw [closing_eq, closing_eq, h]
  induction e generalizing e' with
  | name n =>
    cases e' with
    | name n' =>
      cases n
      cases n'
      cases h
      rfl
    | array | group | index => cases same
  | array e ih =>
    cases e' with
    | array e' =>
      have inner : e.text = e'.text := by simpa only [text, String.append_left_inj] using h
      rw [ih inner (by rw [closing_eq, closing_eq, inner])]
    | name | group | index => cases same
  | group e ih =>
    cases e' with
    | group e' =>
      have inner : e.text = e'.text := by
        simpa only [text, String.append_left_inj, String.append_right_inj] using h
      rw [ih inner (by rw [closing_eq, closing_eq, inner])]
    | name | array | index => cases same
  | index e ih =>
    cases e' with
    | index e' =>
      have inner : e.text = e'.text := indexSignature_inj.1 h
      rw [ih inner (by rw [closing_eq, closing_eq, inner])]
    | name | array | group => cases same

theorem comma_not_mem_text (e : Expression) : ',' ∉ e.text.toList := by
  induction e with
  | name n => exact n.isDotted.comma_not_mem
  | array e ih | group e ih => simp [text, ih]
  | index e ih =>
    rw [text]
    unfold indexSignature
    simp [ih]

end Expression

end ServiceClient.TypeScript

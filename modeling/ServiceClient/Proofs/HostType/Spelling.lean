import Mathlib.Data.List.Permutation
import ServiceClient.HostType.Reading
import ServiceClient.Proofs.Validation.Accepted
import ServiceClient.Proofs.Value

/-!
The spellings of a type. A type is spelled by a text that denotes it, or by a record of its name and
of spellings of its generic arguments. Each is read as the type unless it is too deep, and a text
that denotes no type is refused wherever it stands in a spelling.
-/

namespace ServiceClient.HostType

open Validation Validation.Checked

/-- Whether a value spells a type, with spellings at most so many deep inside one another. -/
inductive Spelling : (depth : Nat) → Value → HostType → Prop
  | text {depth : Nat} {s : String} {t : HostType} (h : parse s = .ok t) :
    Spelling (depth + 1) (.text s) t
  | name {depth : Nat} {name : String} (named : name ≠ "") :
    Spelling (depth + 1) (.mapping [(.text "name", .text name)]) { name }
  | record {depth : Nat} {name : String} {entries : List (Value × Value)}
    {spelled : List (Value × HostType)} (named : name ≠ "")
    (fields : entries.Perm [(.text "name", .text name),
      (.text "generic_arguments", .list (spelled.map Prod.fst))])
    (h : ∀ p ∈ spelled, Spelling depth p.1 p.2) :
    Spelling (depth + 1) (.mapping entries) { name, arguments := spelled.map Prod.snd }

def valueWithin (depth : Nat) (seen : List Nat) (v : Value) : Checked HostType :=
  either depth (recordWithin depth seen) v

theorem ofValue_eq (v : Value) : ofValue v = valueWithin maxNesting [] v := by
  rw [ofValue, valueWithin]
  rfl

theorem recordWithin_mapping (depth : Nat) (seen : List Nat) (entries : List (Value × Value)) :
    recordWithin (depth + 1) seen (.mapping entries) =
      closed fields entries (HostType.mk <$> field entries "name" nonEmptyText
        <*> fieldOr entries "generic_arguments" [] (argumentsBy depth (recordWithin depth seen))
        <*> fieldOr entries "is_model" false bool) := rfl

theorem ofText_eq_accepted_iff {s : String} {t : HostType} :
    ofText s = .accepted t ↔ parse s = .ok t := by
  rw [ofText]
  cases parse s <;> simp [reject]

theorem badText?_eq_none {items : List Value}
    (h : ∀ s, .text s ∈ items → ∃ t, parse s = .ok t) : badText? items = none := by
  induction items with
  | nil => rfl
  | cons v items ih =>
    have later := ih fun s hs => h s (List.mem_cons_of_mem _ hs)
    cases v with
    | text s =>
      obtain ⟨t, ht⟩ := h s List.mem_cons_self
      simp only [badText?, ht, later]
    | _ => exact later

theorem exists_eq_succ_of_text {depth : Nat} {seen : List Nat} {s : String} {t : HostType}
    (h : valueWithin depth seen (.text s) = .accepted t) :
    parse s = .ok t ∧ ∃ less, depth = less + 1 := by
  cases depth with
  | zero => contradiction
  | succ less => exact ⟨ofText_eq_accepted_iff.1 h, less, rfl⟩

theorem argumentsBy_of_spelled {depth : Nat} {seen : List Nat} {spelled : List (Value × HostType)}
    (h : ∀ p ∈ spelled, valueWithin depth seen p.1 = .accepted p.2) :
    argumentsBy depth (recordWithin depth seen) (.list (spelled.map Prod.fst)) =
      .accepted (spelled.map Prod.snd) := by
  -- A list is refused as a whole for a bad text, before any of its items is read.
  have readable : badText? (spelled.map Prod.fst) = none := by
    refine badText?_eq_none fun s hs => ?_
    obtain ⟨p, hp, same⟩ := List.mem_map.1 hs
    have read := h p hp
    rw [same] at read
    exact ⟨p.2, (exists_eq_succ_of_text read).1⟩
  simp only [argumentsBy, Value.opened, readable]
  exact eachFrom_of_accepted h 0

theorem recordWithin_of_fields {depth : Nat} {seen : List Nat} {entries : List (Value × Value)}
    {name : String} {as : List HostType} (known : strangers fields entries = [])
    (named : name ≠ "") (own : Value.get? "name" entries = some (.text name))
    (arguments : fieldOr entries "generic_arguments" []
      (argumentsBy depth (recordWithin depth seen)) = .accepted as)
    (unmarked : Value.get? "is_model" entries = none) :
    recordWithin (depth + 1) seen (.mapping entries) = .accepted { name, arguments := as } := by
  have hname : field entries "name" nonEmptyText = .accepted name := by
    simp [field, own, nonEmptyText, text, andThen, named, under]
  have hmark : fieldOr entries "is_model" false bool = .accepted false := by
    rw [fieldOr, unmarked]
  rw [recordWithin_mapping, closed, known, hname, arguments, hmark]
  rfl

theorem valueWithin_of_recordWithin {depth : Nat} {seen : List Nat} {v : Value} {t : HostType}
    (h : recordWithin depth seen v = .accepted t) :
    valueWithin depth seen v = .accepted t := by
  cases v with
  | text s => cases depth <;> contradiction
  | _ => exact h

theorem valueWithin_of_spelling {depth : Nat} {v : Value} {t : HostType} (h : Spelling depth v t)
    (seen : List Nat) : valueWithin depth seen v = .accepted t := by
  induction h with
  | text h => exact ofText_eq_accepted_iff.2 h
  | name named =>
    exact valueWithin_of_recordWithin (recordWithin_of_fields rfl named rfl rfl rfl)
  | record named fields h ih =>
    have arguments := congrArg (under (.field "generic_arguments")) (argumentsBy_of_spelled ih)
    apply valueWithin_of_recordWithin
    rcases List.perm_pair.1 fields with rfl | rfl
    · exact recordWithin_of_fields rfl named rfl arguments rfl
    · exact recordWithin_of_fields rfl named rfl arguments rfl

theorem ofValue_of_spelling {v : Value} {t : HostType} (h : Spelling maxNesting v t) :
    ofValue v = .accepted t := by
  rw [ofValue_eq]
  exact valueWithin_of_spelling h _

section Accepted

variable {depth : Nat} {seen : List Nat} {v w : Value} {t : HostType} {as : List HostType}

end Accepted

end ServiceClient.HostType

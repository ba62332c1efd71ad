import Mathlib.Data.Set.Function
import ServiceClient.Proofs.HostType.Acceptance

namespace ServiceClient.HostType

mutual

def tokens : HostType → List Token
  | ⟨name, [], _⟩ => [.name name]
  | ⟨name, a :: as, _⟩ => .name name :: .opening :: (a.tokens ++ moreTokens as ++ [.closing])

def moreTokens : List HostType → List Token
  | [] => []
  | a :: as => .comma :: (a.tokens ++ moreTokens as)

end

theorem derivesMore_moreTokens {as : List HostType} (h : ∀ a ∈ as, Derives a.tokens a) :
    DerivesMore (moreTokens as) as := by
  induction as with
  | nil => exact .nil
  | cons a as ih =>
    rw [List.forall_mem_cons] at h
    exact .cons h.1 (ih h.2)

theorem Plain.derives_tokens {t : HostType} (h : t.Plain) : Derives t.tokens t := by
  induction h with
  | @mk n as _ _ ih =>
    cases as with
    | nil => exact .name
    | cons a as =>
      rw [List.forall_mem_cons] at ih
      exact .generic ih.1 (derivesMore_moreTokens ih.2)

theorem spells_token {t : Token} (h : t.IsLexeme) : Spells [t] t.text.toList := by
  have gap : Blank [] := by decide
  simpa using Spells.cons gap h (.nil gap)

theorem spells_comma : Spells [.comma] ", ".toList := by
  have gap : Blank [' '] := by decide
  exact (spells_token (t := .comma) trivial).append (.nil gap)

theorem spells_moreTokens {as : List HostType}
    (h : ∀ a ∈ as, Spells a.tokens a.toNotation.toList) :
    Spells (moreTokens as) (moreToNotation as).toList := by
  induction as with
  | nil =>
    change Spells [] []
    exact .nil (by decide)
  | cons a as ih =>
    rw [List.forall_mem_cons] at h
    rw [moreToNotation, String.toList_append, String.toList_append]
    exact (spells_comma.append h.1).append (ih h.2)

theorem Plain.spells_tokens {t : HostType} (h : t.Plain) : Spells t.tokens t.toNotation.toList := by
  induction h with
  | @mk n as hn _ ih =>
    have spells_name : Spells [.name n] n.toList := spells_token (t := .name n) hn
    cases as with
    | nil => exact spells_name
    | cons a as =>
      rw [List.forall_mem_cons] at ih
      have opened := spells_name.append (spells_token (t := .opening) trivial)
      have filled := (opened.append ih.1).append (spells_moreTokens ih.2)
      have closed := filled.append (spells_token (t := .closing) trivial)
      simpa [tokens, toNotation, Token.text] using closed

theorem Plain.denotes {t : HostType} (h : t.Plain) : Denotes t.toNotation t :=
  ⟨t.tokens, h.spells_tokens, h.derives_tokens⟩

/-- The notation of a type is read back as the type just if the grammar can denote the type; what
is read is such a type; and types that are read differ in their notation. -/
theorem parse_toNotation :
    (∀ t : HostType, parse t.toNotation = .ok t ↔ t.Plain) ∧
      (∀ text t, parse text = .ok t → t.Plain ∧ parse t.toNotation = .ok t) ∧
      Set.InjOn toNotation {t | ∃ text, parse text = .ok t} := by
  have read_back : ∀ t : HostType, parse t.toNotation = .ok t ↔ t.Plain := fun t =>
    ⟨fun h => (parse_eq_ok_iff.1 h).plain, fun h => parse_eq_ok_iff.2 h.denotes⟩
  have again : ∀ text t, parse text = .ok t → t.Plain ∧ parse t.toNotation = .ok t := by
    intro text t h
    have plain := (parse_eq_ok_iff.1 h).plain
    exact ⟨plain, (read_back t).2 plain⟩
  refine ⟨read_back, again, ?_⟩
  rintro t ⟨text, ht⟩ u ⟨text', hu⟩ same
  have readAgain := (again text t ht).2
  rw [same, (again text' u hu).2] at readAgain
  exact (Except.ok.inj readAgain).symm

theorem parse_toNotation_nested :
    let t : HostType := ⟨"Map", [⟨"A", [], false⟩, ⟨"Array", [⟨"B", [], false⟩], false⟩], false⟩
    t.toNotation = "Map<A, Array<B>>" ∧ parse t.toNotation = .ok t := by
  intro t
  have plain : t.Plain :=
    .mk (by decide) fun a ha => by
      rcases List.mem_pair.1 ha with rfl | rfl
      · exact .mk (by decide) nofun
      · refine .mk (by decide) fun b hb => ?_
        rw [List.mem_singleton.1 hb]
        exact .mk (by decide) nofun
  exact ⟨by decide, (parse_toNotation.1 t).2 plain⟩

end ServiceClient.HostType

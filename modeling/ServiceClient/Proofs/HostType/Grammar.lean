import Mathlib.Data.List.Chain
import ServiceClient.HostType.Notation

namespace ServiceClient.HostType

def isName : List Char → Bool
  | [] => false
  | c :: cs => isNameStart c && cs.all isNameChar

def Token.isNamed : Token → Bool
  | .name _ => true
  | _ => false

def Token.IsLexeme : Token → Prop
  | .name text => isName text.toList
  | _ => True

/-- Whether two tokens may touch. Two names may not: they would be one. -/
def Token.Parted (a b : Token) : Prop := a.isNamed = true → b.isNamed = false

def Blank (cs : List Char) : Prop := ∀ c ∈ cs, Text.isBlank c = true

instance : DecidablePred Blank :=
  fun cs => decidable_of_iff (cs.all Text.isBlank = true) List.all_eq_true

inductive Spells : List Token → List Char → Prop
  | nil : Blank gap → Spells [] gap
  | cons {t : Token} : Blank gap → t.IsLexeme → Spells ts cs →
      Spells (t :: ts) (gap ++ t.text.toList ++ cs)

mutual

inductive Derives : List Token → HostType → Prop
  | name : Derives [.name n] { name := n }
  | generic : Derives ts a → DerivesMore us as →
      Derives (.name n :: .opening :: (ts ++ us ++ [.closing])) { name := n, arguments := a :: as }
  | optional : Derives ts t → Derives (ts ++ [.optional]) { name := "Nullable", arguments := [t] }
  | array : Derives ts t → Derives (ts ++ [.array]) { name := "Array", arguments := [t] }

inductive DerivesMore : List Token → List HostType → Prop
  | nil : DerivesMore [] []
  | cons : Derives ts a → DerivesMore us as → DerivesMore (.comma :: (ts ++ us)) (a :: as)

end

def Denotes (text : String) (t : HostType) : Prop :=
  ∃ tokens, Spells tokens text.toList ∧ Derives tokens t

inductive Plain : HostType → Prop
  | mk {n : String} {as : List HostType} : isName n.toList = true → (∀ a ∈ as, Plain a) →
      Plain { name := n, arguments := as }

namespace Token

theorem isChain_parted_cons {a : Token} {ts : List Token} (ha : a.isNamed = false)
    (h : ts.IsChain Parted) : (a :: ts).IsChain Parted := by
  refine List.isChain_cons.2 ⟨?_, h⟩
  intro b _ named
  simp [ha] at named

theorem isChain_parted_append {ts us : List Token} (ht : ts.IsChain Parted)
    (hu : us.IsChain Parted) (head : ∀ b ∈ us.head?, b.isNamed = false) :
    (ts ++ us).IsChain Parted := by
  refine List.isChain_append.2 ⟨ht, hu, ?_⟩
  intro a _ b hb _
  exact head b hb

end Token

theorem DerivesMore.head_unnamed {ts : List Token} {as : List HostType} (h : DerivesMore ts as) :
    ∀ b ∈ ts.head?, b.isNamed = false := by
  cases h <;> simp [Token.isNamed]

mutual

theorem Derives.parted : ∀ {ts : List Token} {t : HostType}, Derives ts t →
    ts.IsChain Token.Parted
  | _, _, .name => List.isChain_singleton _
  | _, _, .generic first more => by
    have inner := Token.isChain_parted_append first.parted more.parted more.head_unnamed
    have closed := Token.isChain_parted_append inner (List.isChain_singleton .closing)
      (by simp [Token.isNamed])
    refine List.isChain_cons.2 ⟨?_, Token.isChain_parted_cons rfl closed⟩
    simp [Token.Parted, Token.isNamed]
  | _, _, .optional inner =>
    Token.isChain_parted_append inner.parted (List.isChain_singleton _) (by simp [Token.isNamed])
  | _, _, .array inner =>
    Token.isChain_parted_append inner.parted (List.isChain_singleton _) (by simp [Token.isNamed])

theorem DerivesMore.parted : ∀ {ts : List Token} {as : List HostType}, DerivesMore ts as →
    ts.IsChain Token.Parted
  | _, _, .nil => List.isChain_nil
  | _, _, .cons first more =>
    Token.isChain_parted_cons rfl
      (Token.isChain_parted_append first.parted more.parted more.head_unnamed)

end

mutual

theorem Derives.plain : ∀ {ts : List Token} {t : HostType}, Derives ts t →
    (∀ token ∈ ts, token.IsLexeme) → t.Plain
  | _, _, .name (n := n), h => .mk (h (.name n) (by simp)) (by simp)
  | _, _, .generic (n := n) first more, h => by
    refine .mk (h (.name n) (by simp)) ?_
    rw [List.forall_mem_cons]
    exact ⟨first.plain fun token ht => h token (by simp [ht]),
      more.plain fun token ht => h token (by simp [ht])⟩
  | _, _, .optional inner, h => by
    refine .mk (by decide) ?_
    simpa using inner.plain fun token ht => h token (by simp [ht])
  | _, _, .array inner, h => by
    refine .mk (by decide) ?_
    simpa using inner.plain fun token ht => h token (by simp [ht])

theorem DerivesMore.plain : ∀ {ts : List Token} {as : List HostType}, DerivesMore ts as →
    (∀ token ∈ ts, token.IsLexeme) → ∀ a ∈ as, a.Plain
  | _, _, .nil, _ => by simp
  | _, _, .cons first more, h => by
    rw [List.forall_mem_cons]
    exact ⟨first.plain fun token ht => h token (by simp [ht]),
      more.plain fun token ht => h token (by simp [ht])⟩

end

theorem Spells.isLexeme {ts : List Token} {cs : List Char} (h : Spells ts cs) :
    ∀ t ∈ ts, t.IsLexeme := by
  induction h with
  | nil => simp
  | cons _ ht _ ih => exact List.forall_mem_cons.2 ⟨ht, ih⟩

theorem Denotes.plain {text : String} {t : HostType} (h : Denotes text t) : t.Plain := by
  obtain ⟨tokens, spells, derives⟩ := h
  exact derives.plain spells.isLexeme

theorem Spells.blank_append {ts : List Token} {gap cs : List Char} (hgap : Blank gap)
    (h : Spells ts cs) : Spells ts (gap ++ cs) := by
  have joined : ∀ {more}, Blank more → Blank (gap ++ more) := by
    intro more hmore c hc
    rcases List.mem_append.1 hc with hc | hc
    · exact hgap c hc
    · exact hmore c hc
  cases h with
  | nil hmore => exact .nil (joined hmore)
  | cons hmore ht hts =>
    rw [← List.append_assoc, ← List.append_assoc]
    exact .cons (joined hmore) ht hts

theorem Spells.append {ts us : List Token} {cs ds : List Char} (h : Spells ts cs)
    (g : Spells us ds) : Spells (ts ++ us) (cs ++ ds) := by
  induction h with
  | nil hgap => exact g.blank_append hgap
  | cons hgap ht _ ih =>
    rw [List.append_assoc]
    exact .cons hgap ht ih

theorem Derives.ne_nil {ts : List Token} {t : HostType} (h : Derives ts t) : ts ≠ [] := by
  cases h <;> simp

end ServiceClient.HostType

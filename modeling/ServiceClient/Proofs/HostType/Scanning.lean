import ServiceClient.Proofs.HostType.Grammar
import ServiceClient.Proofs.Text.Strip

namespace ServiceClient.HostType

inductive SpellsBefore : List Token → List Char → List Char → Prop
  | nil : SpellsBefore [] [] rest
  | cons {t : Token} : Blank gap → t.IsLexeme →
      (t.isNamed = true → ∀ c ∈ (cs ++ rest).head?, isNameChar c = false) →
      SpellsBefore ts cs rest → SpellsBefore (t :: ts) (gap ++ t.text.toList ++ cs) rest

def BeginsWithToken (cs : List Char) : Prop :=
  ∃ gap t rest, Blank gap ∧ Token.IsLexeme t ∧ cs = gap ++ t.text.toList ++ rest

/-- A position up to which a text is made of tokens, and where neither a token follows nor blanks
alone. -/
def StopsAt (cs : List Char) (position : Nat) : Prop :=
  ∃ tokens before after, cs = before ++ after ∧ before.length = position ∧
    SpellsBefore tokens before after ∧ ¬BeginsWithToken after ∧ ¬Blank after

theorem isBlank_of_bounds {c : Char} (low : 0x20 < c.toNat) (high : c.toNat < 0x80) :
    Text.isBlank c = false := by
  simp [Text.isBlank, Text.inRanges, Text.blankRanges]
  omega

theorem isNameChar_of_isNameStart {c : Char} (h : isNameStart c = true) : isNameChar c = true := by
  simp only [isNameStart, isNameChar, Char.isAlphanum, Bool.or_eq_true] at h ⊢
  rcases h with h | h <;> simp [h]

theorem bounds_of_isNameChar {c : Char} (h : isNameChar c = true) :
    0x20 < c.toNat ∧ c.toNat < 0x80 := by
  have between : ∀ {low high : Char}, low.toNat ≤ c.toNat ∧ c.toNat ≤ high.toNat →
      0x20 < low.toNat → high.toNat < 0x80 → 0x20 < c.toNat ∧ c.toNat < 0x80 := by omega
  simp only [isNameChar, Char.isAlphanum, Bool.or_eq_true, beq_iff_eq] at h
  obtain (((letter | digit) | rfl) | rfl) | rfl := h
  · rcases Bool.or_eq_true_iff.1 letter with upper | lower
    · have range : 'A'.toNat ≤ c.toNat ∧ c.toNat ≤ 'Z'.toNat := of_decide_eq_true upper
      exact between range (by decide) (by decide)
    · have range := Bool.and_eq_true_iff.1 lower
      have range : 'a'.toNat ≤ c.toNat ∧ c.toNat ≤ 'z'.toNat :=
        ⟨of_decide_eq_true range.1, of_decide_eq_true range.2⟩
      exact between range (by decide) (by decide)
  · exact between (Char.isDigit_iff_toNat.1 digit) (by decide) (by decide)
  · decide
  · decide
  · decide

theorem isBlank_of_isNameChar {c : Char} (h : isNameChar c = true) : Text.isBlank c = false :=
  isBlank_of_bounds (bounds_of_isNameChar h).1 (bounds_of_isNameChar h).2

theorem isNameChar_of_isBlank {c : Char} (h : Text.isBlank c = true) : isNameChar c = false := by
  cases hc : isNameChar c with
  | false => rfl
  | true => rw [isBlank_of_isNameChar hc] at h; contradiction

theorem isNameChar_of_mem_name {cs : List Char} (h : isName cs = true) :
    ∀ c ∈ cs, isNameChar c = true := by
  cases cs with
  | nil => simp
  | cons c cs =>
    simp only [isName, Bool.and_eq_true, List.all_eq_true] at h
    intro d hd
    rcases List.mem_cons.1 hd with rfl | hd
    · exact isNameChar_of_isNameStart h.1
    · exact h.2 d hd

namespace Token

theorem IsLexeme.not_blank {t : Token} (h : t.IsLexeme) :
    ∀ c ∈ t.text.toList, Text.isBlank c = false := by
  cases t with
  | name text => exact fun c hc => isBlank_of_isNameChar (isNameChar_of_mem_name h c hc)
  | array => exact List.forall_mem_cons.2 ⟨rfl, List.forall_mem_singleton.2 rfl⟩
  | opening => exact List.forall_mem_singleton.2 rfl
  | closing => exact List.forall_mem_singleton.2 rfl
  | comma => exact List.forall_mem_singleton.2 rfl
  | optional => exact List.forall_mem_singleton.2 rfl

theorem IsLexeme.text_ne_nil {t : Token} (h : t.IsLexeme) : t.text.toList ≠ [] := by
  cases t with
  | name text =>
    intro empty
    have named : isName text.toList = true := h
    rw [show text.toList = [] from empty] at named
    contradiction
  | array => decide
  | opening => decide
  | closing => decide
  | comma => decide
  | optional => decide

theorem IsLexeme.dropWhile_text {t : Token} (h : t.IsLexeme) (rest : List Char) :
    (t.text.toList ++ rest).dropWhile Text.isBlank = t.text.toList ++ rest := by
  cases htext : t.text.toList with
  | nil => exact absurd htext h.text_ne_nil
  | cons c cs =>
    have hc : Text.isBlank c = false := h.not_blank c (by simp [htext])
    simp [hc]

theorem head_text_of_unnamed {t : Token} (h : t.isNamed = false) :
    ∀ c ∈ t.text.toList.head?, isNameChar c = false := by
  intro c hc
  cases t with
  | name => simp [isNamed] at h
  | array => cases hc; rfl
  | opening => cases hc; rfl
  | closing => cases hc; rfl
  | comma => cases hc; rfl
  | optional => cases hc; rfl

theorem next?_of_isNameStart {c : Char} {cs : List Char} (h : isNameStart c = true) :
    next? (c :: cs)
      = some (name (.ofList (c :: cs.takeWhile isNameChar)), cs.dropWhile isNameChar) := by
  unfold next?
  split
  case h_7 heq =>
    cases heq
    rw [if_pos h]
  case h_1 => contradiction
  all_goals
    next heq =>
      cases heq
      contradiction

theorem next?_name {n : String} {rest : List Char} (h : isName n.toList = true)
    (stop : ∀ c ∈ rest.head?, isNameChar c = false) :
    next? (n.toList ++ rest) = some (name n, rest) := by
  cases hn : n.toList with
  | nil => simp [hn, isName] at h
  | cons c cs =>
    simp only [hn, isName, Bool.and_eq_true, List.all_eq_true] at h
    have run : rest.takeWhile isNameChar = [] ∧ rest.dropWhile isNameChar = rest := by
      cases rest with
      | nil => simp
      | cons d rest => simp [stop d rfl]
    rw [List.cons_append, next?_of_isNameStart h.1, List.takeWhile_append_of_pos h.2,
      List.dropWhile_append_of_pos h.2, run.1, run.2, List.append_nil, ← hn, String.ofList_toList]

theorem next?_text {t : Token} {rest : List Char} (h : t.IsLexeme)
    (stop : t.isNamed = true → ∀ c ∈ rest.head?, isNameChar c = false) :
    next? (t.text.toList ++ rest) = some (t, rest) := by
  cases t with
  | name n => exact next?_name h (stop rfl)
  | array => rfl
  | opening => rfl
  | closing => rfl
  | comma => rfl
  | optional => rfl

theorem eq_text_append_of_next? {cs rest : List Char} {t : Token}
    (h : next? cs = some (t, rest)) : t.IsLexeme ∧ cs = t.text.toList ++ rest := by
  revert h
  fun_cases next? cs with
  | case7 c tail _ _ _ _ _ hc =>
    intro h
    obtain ⟨rfl, rfl⟩ : name _ = t ∧ tail.dropWhile isNameChar = rest := by simpa using h
    constructor
    · simp [IsLexeme, isName, hc]
    · simp [text, List.takeWhile_append_dropWhile]
  | case1 => simp
  | case8 => simp
  | _ =>
    intro h
    cases h
    exact ⟨trivial, rfl⟩

theorem head_of_next? {cs rest : List Char} {t : Token} (h : next? cs = some (t, rest))
    (named : t.isNamed = true) : ∀ c ∈ rest.head?, isNameChar c = false := by
  revert h
  fun_cases next? cs with
  | case7 c tail _ _ _ _ _ _ =>
    intro h
    obtain ⟨-, rfl⟩ : _ ∧ tail.dropWhile isNameChar = rest := by simpa using h
    intro d hd
    have stops := List.head?_dropWhile_not isNameChar tail
    rw [Option.mem_def.1 hd] at stops
    simpa using stops
  | case1 => simp
  | case8 => simp
  | _ =>
    intro h
    cases h
    contradiction

theorem next?_ne_none_of_isLexeme {t : Token} (h : t.IsLexeme) (rest : List Char) :
    next? (t.text.toList ++ rest) ≠ none := by
  cases t with
  | name n =>
    have named : isName n.toList = true := h
    cases hn : n.toList with
    | nil =>
      rw [hn] at named
      contradiction
    | cons c cs =>
      rw [hn, isName, Bool.and_eq_true] at named
      rw [text, hn, List.cons_append, next?_of_isNameStart named.1]
      exact Option.some_ne_none _
  | array => exact Option.some_ne_none _
  | opening => exact Option.some_ne_none _
  | closing => exact Option.some_ne_none _
  | comma => exact Option.some_ne_none _
  | optional => exact Option.some_ne_none _

theorem next?_eq_none_iff {cs : List Char} :
    next? (cs.dropWhile Text.isBlank) = none ↔ ¬BeginsWithToken cs := by
  constructor
  · rintro none ⟨gap, t, rest, hgap, ht, rfl⟩
    rw [List.append_assoc, List.dropWhile_append_of_pos hgap, ht.dropWhile_text] at none
    exact next?_ne_none_of_isLexeme ht rest none
  · intro unread
    cases h : next? (cs.dropWhile Text.isBlank) with
    | none => rfl
    | some found =>
      obtain ⟨t, rest⟩ := found
      obtain ⟨ht, split⟩ := eq_text_append_of_next? h
      refine absurd ⟨cs.takeWhile Text.isBlank, t, rest, ?_, ht, ?_⟩ unread
      · exact fun c hc => List.mem_takeWhile_imp hc
      · rw [List.append_assoc, ← split, List.takeWhile_append_dropWhile]

theorem scanFrom_of_next? {position : Nat} {cs rest : List Char} {t : Token}
    (h : next? (cs.dropWhile Text.isBlank) = some (t, rest)) :
    scanFrom position cs = do
      let ts ← scanFrom (position + (cs.length - rest.length)) rest
      return t :: ts := by
  rw [scanFrom]
  split
  · next empty => simp [empty, next?] at h
  · split
    · next none => simp [none] at h
    · next some =>
      rw [h] at some
      cases some
      rfl

theorem scanFrom_of_not_beginsWithToken {position : Nat} {cs : List Char} (filled : cs ≠ [])
    (unread : ¬BeginsWithToken cs) : scanFrom position cs = .error position := by
  rw [scanFrom, if_neg filled]
  split
  · rfl
  · next t rest some =>
    rw [next?_eq_none_iff.2 unread] at some
    contradiction

end Token

namespace SpellsBefore

variable {tokens : List Token} {before after : List Char}

theorem of_head {after' : List Char} (h : SpellsBefore tokens before after)
    (head : ∀ c ∈ after'.head?, c ∈ after.head?) : SpellsBefore tokens before after' := by
  induction h with
  | nil => exact .nil
  | @cons gap cs rest ts t hgap ht stop _ ih =>
    refine .cons hgap ht (fun named c hc => stop named c ?_) (ih head)
    cases cs with
    | nil => exact head c hc
    | cons d cs => exact hc

theorem getLast? (h : SpellsBefore tokens before after) :
    ∀ c ∈ before.getLast?, Text.isBlank c = false := by
  induction h with
  | nil => simp
  | @cons gap cs rest ts t hgap ht _ _ ih =>
    intro c hc
    cases cs with
    | nil =>
      rw [List.append_nil, List.getLast?_append_of_ne_nil _ ht.text_ne_nil] at hc
      exact ht.not_blank c (List.mem_of_mem_getLast? hc)
    | cons d cs =>
      rw [List.getLast?_append_of_ne_nil _ (List.cons_ne_nil d cs)] at hc
      exact ih c hc

theorem eq_nil_iff (h : SpellsBefore tokens before after) : tokens = [] ↔ before = [] := by
  cases h with
  | nil => simp
  | cons _ ht _ _ =>
    refine iff_of_false (List.cons_ne_nil _ _) ?_
    rw [List.append_eq_nil_iff, List.append_eq_nil_iff]
    exact fun none => ht.text_ne_nil none.1.2

theorem spells (h : SpellsBefore tokens before after) : Spells tokens before := by
  induction h with
  | nil => exact .nil (List.forall_mem_nil _)
  | cons hgap ht _ _ ih => exact .cons hgap ht ih

theorem flatMap_text (h : SpellsBefore tokens before after) :
    tokens.flatMap (·.text.toList) = before.filter (!Text.isBlank ·) := by
  induction h with
  | nil => rfl
  | @cons gap cs rest ts t hgap ht _ _ ih =>
    have blanks : gap.filter (!Text.isBlank ·) = [] :=
      List.filter_eq_nil_iff.2 fun c hc => by simp [hgap c hc]
    have kept : t.text.toList.filter (!Text.isBlank ·) = t.text.toList :=
      List.filter_eq_self.2 fun c hc => by simp [ht.not_blank c hc]
    rw [List.flatMap_cons, List.filter_append, List.filter_append, blanks, kept, ih,
      List.nil_append]

theorem scanFrom (h : SpellsBefore tokens before after) (position : Nat) :
    Token.scanFrom position (before ++ after) = do
      let more ← Token.scanFrom (position + before.length) after
      return tokens ++ more := by
  induction h generalizing position with
  | @nil rest => exact (bind_pure (Token.scanFrom position rest)).symm
  | @cons gap cs rest ts t hgap ht stop _ ih =>
    have next : Token.next? ((gap ++ t.text.toList ++ cs ++ rest).dropWhile Text.isBlank) =
        some (t, cs ++ rest) := by
      rw [List.append_assoc, List.append_assoc, List.dropWhile_append_of_pos hgap,
        ht.dropWhile_text, Token.next?_text ht stop]
    have passed : position + ((gap ++ t.text.toList ++ cs ++ rest).length - (cs ++ rest).length) +
        cs.length = position + (gap ++ t.text.toList ++ cs).length := by
      simp only [List.length_append]
      omega
    rw [Token.scanFrom_of_next? next, ih, passed]
    simp

end SpellsBefore

theorem Spells.head_not_nameChar {ts : List Token} {cs : List Char} (h : Spells ts cs)
    (head : ∀ t ∈ ts.head?, t.isNamed = false) : ∀ c ∈ cs.head?, isNameChar c = false := by
  cases h with
  | nil hgap => exact fun c hc => isNameChar_of_isBlank (hgap c (List.mem_of_mem_head? hc))
  | @cons gap ts cs t hgap ht _ =>
    cases gap with
    | cons b gap =>
      intro c hc
      obtain rfl : b = c := by simpa using hc
      exact isNameChar_of_isBlank (hgap b (by simp))
    | nil =>
      cases htext : t.text.toList with
      | nil => exact absurd htext ht.text_ne_nil
      | cons d _ =>
        intro c hc
        obtain rfl : d = c := by simpa [htext] using hc
        exact Token.head_text_of_unnamed (head t rfl) d (by simp [htext])

theorem Spells.exists_spellsBefore {ts : List Token} {cs : List Char} (h : Spells ts cs)
    (parted : ts.IsChain Token.Parted) :
    ∃ before after, cs = before ++ after ∧ SpellsBefore ts before after ∧ Blank after := by
  induction h with
  | nil hgap => exact ⟨[], _, rfl, .nil, hgap⟩
  | @cons gap ts cs t hgap ht hts ih =>
    obtain ⟨hhead, htail⟩ := List.isChain_cons.1 parted
    obtain ⟨before, after, rfl, spells, blank⟩ := ih htail
    refine ⟨gap ++ t.text.toList ++ before, after, (List.append_assoc ..).symm,
      .cons hgap ht (fun named => ?_) spells, blank⟩
    -- What follows a name could not go on with it, being blank or no name.
    exact hts.head_not_nameChar fun u hu => hhead u hu named

theorem exists_spellsBefore (cs : List Char) :
    ∃ tokens before after, cs = before ++ after ∧ SpellsBefore tokens before after ∧
      ¬BeginsWithToken after := by
  cases h : Token.next? (cs.dropWhile Text.isBlank) with
  | none => exact ⟨[], [], cs, rfl, .nil, Token.next?_eq_none_iff.1 h⟩
  | some found =>
    obtain ⟨t, rest⟩ := found
    obtain ⟨ht, split⟩ := Token.eq_text_append_of_next? h
    have shorter : rest.length < cs.length :=
      Nat.lt_of_lt_of_le (Token.length_lt_of_next? h) (Token.length_dropWhile_le _ _)
    obtain ⟨tokens, before, after, rfl, spells, unread⟩ := exists_spellsBefore rest
    have gap : Blank (cs.takeWhile Text.isBlank) := fun c hc => List.mem_takeWhile_imp hc
    refine ⟨t :: tokens, _, after, ?_, .cons gap ht (Token.head_of_next? h) spells, unread⟩
    rw [List.append_assoc, List.append_assoc, ← split, List.takeWhile_append_dropWhile]
termination_by cs.length

section Scan

variable {text : String} {tokens : List Token} {before after : List Char}

theorem scan_of_spellsBefore (split : text.toList = before ++ after)
    (h : SpellsBefore tokens before after) : Token.scan text = do
      let more ← Token.scanFrom before.length (Text.stripEnd Text.isBlank after)
      return tokens ++ more := by
  have stripped : SpellsBefore tokens before (Text.stripEnd Text.isBlank after) :=
    h.of_head fun c hc => Text.mem_head?_of_stripEnd hc
  rw [Token.scan, split, Text.stripEnd_append h.getLast?, stripped.scanFrom, Nat.zero_add]

theorem scan_of_blank (split : text.toList = before ++ after)
    (h : SpellsBefore tokens before after) (blank : Blank after) :
    Token.scan text = .ok tokens := by
  rw [scan_of_spellsBefore split h, Text.stripEnd_eq_nil blank, Token.scanFrom, if_pos rfl]
  exact congrArg Except.ok (List.append_nil tokens)

theorem scan_of_not_beginsWithToken (split : text.toList = before ++ after)
    (h : SpellsBefore tokens before after) (unread : ¬BeginsWithToken after)
    (filled : ¬Blank after) : Token.scan text = .error before.length := by
  obtain ⟨gap, hgap, whole⟩ := Text.exists_append_stripEnd Text.isBlank after
  have kept : Text.stripEnd Text.isBlank after ≠ [] := by
    intro none
    rw [none, List.nil_append] at whole
    rw [whole] at filled
    exact filled hgap
  have still : ¬BeginsWithToken (Text.stripEnd Text.isBlank after) := by
    rintro ⟨blanks, t, rest, hblanks, ht, begins⟩
    refine unread ⟨blanks, t, rest ++ gap, hblanks, ht, ?_⟩
    rw [whole, begins, List.append_assoc]
  rw [scan_of_spellsBefore split h, Token.scanFrom_of_not_beginsWithToken kept still]
  rfl

theorem scan_cases (text : String) :
    (∃ tokens before after, text.toList = before ++ after ∧ SpellsBefore tokens before after ∧
      Blank after ∧ Token.scan text = .ok tokens) ∨
    ∃ position, StopsAt text.toList position ∧ Token.scan text = .error position := by
  obtain ⟨tokens, before, after, split, spells, unread⟩ := exists_spellsBefore text.toList
  by_cases blank : Blank after
  · exact .inl ⟨tokens, before, after, split, spells, blank, scan_of_blank split spells blank⟩
  · exact .inr ⟨before.length, ⟨tokens, before, after, split, rfl, spells, unread, blank⟩,
      scan_of_not_beginsWithToken split spells unread blank⟩

theorem scan_eq_ok_iff_spellsBefore : Token.scan text = .ok tokens ↔
    ∃ before after, text.toList = before ++ after ∧ SpellsBefore tokens before after ∧
      Blank after := by
  constructor
  · intro h
    obtain ⟨_, before, after, split, spells, blank, same⟩ | ⟨_, -, failed⟩ := scan_cases text
    · cases h.symm.trans same
      exact ⟨before, after, split, spells, blank⟩
    · rw [failed] at h
      contradiction
  · rintro ⟨before, after, split, spells, blank⟩
    exact scan_of_blank split spells blank

theorem scan_eq_error_iff {position : Nat} :
    Token.scan text = .error position ↔ StopsAt text.toList position := by
  constructor
  · intro h
    obtain ⟨_, _, _, -, -, -, scanned⟩ | ⟨_, stops, same⟩ := scan_cases text
    · rw [scanned] at h
      contradiction
    · cases h.symm.trans same
      exact stops
  · rintro ⟨_, before, after, split, rfl, spells, unread, filled⟩
    exact scan_of_not_beginsWithToken split spells unread filled

theorem spells_of_scan (h : Token.scan text = .ok tokens) : Spells tokens text.toList := by
  obtain ⟨before, after, split, spells, blank⟩ := scan_eq_ok_iff_spellsBefore.1 h
  rw [split, ← tokens.append_nil]
  exact spells.spells.append (.nil blank)

theorem scan_eq_ok_iff (parted : tokens.IsChain Token.Parted) :
    Token.scan text = .ok tokens ↔ Spells tokens text.toList := by
  refine ⟨spells_of_scan, fun h => ?_⟩
  obtain ⟨before, after, split, spells, blank⟩ := h.exists_spellsBefore parted
  exact scan_of_blank split spells blank

end Scan

end ServiceClient.HostType

import ServiceClient.Proofs.HostType.Scanning

namespace ServiceClient.HostType

def tokenize (source : String) : Except Fault (List Token) := do
  match ← (Token.scan source).mapError .stray with
  | [] => throw .empty
  | tokens => return tokens

variable {text : String}

theorem parse_eq_tokenize (source : String) :
    parse source = (tokenize source >>= ofTokens).mapError (NotationError.mk source) := by
  rw [parse, tokenize]
  cases Token.scan source with
  | error position => rfl
  | ok tokens =>
    cases tokens with
    | nil => rfl
    | cons t ts => rfl

theorem tokenize_cases (text : String) :
    (∃ tokens, tokens ≠ [] ∧ Token.scan text = .ok tokens ∧ tokenize text = .ok tokens) ∨
    (Token.scan text = .ok [] ∧ tokenize text = .error .empty) ∨
    ∃ position, Token.scan text = .error position ∧
      tokenize text = .error (.stray position) := by
  rw [tokenize]
  cases Token.scan text with
  | error position => exact .inr (.inr ⟨position, rfl, rfl⟩)
  | ok tokens =>
    cases tokens with
    | nil => exact .inr (.inl ⟨rfl, rfl⟩)
    | cons t ts => exact .inl ⟨t :: ts, List.cons_ne_nil t ts, rfl, rfl⟩

theorem tokenize_eq_ok_iff {tokens : List Token} :
    tokenize text = .ok tokens ↔ tokens ≠ [] ∧ Token.scan text = .ok tokens := by
  obtain ⟨found, filled, scanned, same⟩ | ⟨scanned, same⟩ | ⟨position, scanned, same⟩ :=
    tokenize_cases text
  · rw [scanned, same]
    constructor
    · rintro ⟨⟩
      exact ⟨filled, rfl⟩
    · rintro ⟨-, ⟨⟩⟩
      rfl
  · rw [scanned, same]
    constructor
    · rintro ⟨⟩
    · rintro ⟨filled, ⟨⟩⟩
      contradiction
  · simp [scanned, same]

theorem tokenize_eq_stray_iff {position : Nat} :
    tokenize text = .error (.stray position) ↔ Token.scan text = .error position := by
  obtain ⟨_, -, scanned, same⟩ | ⟨scanned, same⟩ | ⟨_, scanned, same⟩ := tokenize_cases text
  · simp [scanned, same]
  · simp [scanned, same]
  · simp [scanned, same]

theorem tokenize_eq_empty_iff : tokenize text = .error .empty ↔ Blank text.toList := by
  have blank_iff : Token.scan text = .ok [] ↔ Blank text.toList := by
    rw [scan_eq_ok_iff_spellsBefore]
    constructor
    · rintro ⟨before, after, split, spells, blank⟩
      rw [split, spells.eq_nil_iff.1 rfl]
      exact blank
    · exact fun blank => ⟨[], text.toList, rfl, .nil, blank⟩
  rw [← blank_iff]
  obtain ⟨_, filled, scanned, same⟩ | ⟨scanned, same⟩ | ⟨_, scanned, same⟩ := tokenize_cases text
  · simp [scanned, same, filled]
  · simp [scanned, same]
  · simp [scanned, same]

theorem flatMap_text_of_tokenize {tokens : List Token} (h : tokenize text = .ok tokens) :
    tokens.flatMap (·.text.toList) = text.toList.filter (!Text.isBlank ·) := by
  obtain ⟨before, after, split, spells, blank⟩ :=
    scan_eq_ok_iff_spellsBefore.1 (tokenize_eq_ok_iff.1 h).2
  have blanks : after.filter (!Text.isBlank ·) = [] :=
    List.filter_eq_nil_iff.2 fun c hc => by simp [blank c hc]
  rw [spells.flatMap_text, split, List.filter_append, blanks, List.append_nil]

theorem StopsAt.before {position : Nat} (h : StopsAt text.toList position) :
    position = 0 ∨
      ∃ tokens, tokenize (.ofList (text.toList.take position)) = .ok tokens := by
  obtain ⟨tokens, before, after, split, rfl, spells, -, -⟩ := h
  have alone : SpellsBefore tokens before [] := spells.of_head (by simp)
  rw [split, List.take_left]
  by_cases none : before = []
  · exact .inl (by rw [none, List.length_nil])
  · have whole : (String.ofList before).toList = before ++ [] := by simp
    have scanned := scan_of_blank whole alone (List.forall_mem_nil _)
    exact .inr ⟨tokens, tokenize_eq_ok_iff.2 ⟨mt alone.eq_nil_iff.1 none, scanned⟩⟩

/-- The types of a text are read from its tokens. There are tokens just if they make up the whole
text, but for blanks, and no name among them could go on; then none of the other characters is lost.
Otherwise a text of blanks is refused as empty, and any other one at the position where no token
follows, while the text before it has tokens or is empty. -/
theorem tokenize_locates (text : String) :
    parse text = (tokenize text >>= ofTokens).mapError (NotationError.mk text) ∧
    ((∃ tokens, tokenize text = .ok tokens) ∨ tokenize text = .error .empty ∨
      ∃ position, tokenize text = .error (.stray position)) ∧
    (∀ tokens, tokenize text = .ok tokens ↔ tokens ≠ [] ∧ ∃ before after,
      text.toList = before ++ after ∧ SpellsBefore tokens before after ∧ Blank after) ∧
    (∀ tokens, tokenize text = .ok tokens →
      tokens.flatMap (·.text.toList) = text.toList.filter (!Text.isBlank ·)) ∧
    (∀ position, tokenize text = .error (.stray position) ↔ StopsAt text.toList position) ∧
    (∀ position, tokenize text = .error (.stray position) →
      position = 0 ∨ ∃ tokens, tokenize (.ofList (text.toList.take position)) = .ok tokens) ∧
    (tokenize text = .error .empty ↔ Blank text.toList) := by
  have stops_iff (position : Nat) :
      tokenize text = .error (.stray position) ↔ StopsAt text.toList position :=
    tokenize_eq_stray_iff.trans scan_eq_error_iff
  refine ⟨parse_eq_tokenize text, ?_, fun tokens => ?_, fun _ => flatMap_text_of_tokenize,
    stops_iff, fun position h => ((stops_iff position).1 h).before, tokenize_eq_empty_iff⟩
  · obtain ⟨tokens, -, -, found⟩ | ⟨-, none⟩ | ⟨position, -, stray⟩ := tokenize_cases text
    · exact .inl ⟨tokens, found⟩
    · exact .inr (.inl none)
    · exact .inr (.inr ⟨position, stray⟩)
  · rw [tokenize_eq_ok_iff, scan_eq_ok_iff_spellsBefore]

theorem tokenize_locates_bracket :
    tokenize "\tMap<A_1 ,B> [ ]" = .error (.stray 12) ∧
    (∃ tokens, tokenize "\tMap<A_1 ,B>" = .ok tokens) ∧
    tokenize " A b" = .ok [.name "A", .name "b"] := by
  have stray : tokenize "\tMap<A_1 ,B> [ ]" = .error (.stray 12) := by decide +kernel
  obtain ⟨-, -, -, -, -, before, -⟩ := tokenize_locates "\tMap<A_1 ,B> [ ]"
  obtain ⟨-, -, ok_iff, -⟩ := tokenize_locates " A b"
  refine ⟨stray, (before 12 stray).resolve_left (by decide), (ok_iff _).2 ?_⟩
  have space : Blank [' '] := by decide
  have second : SpellsBefore [.name "b"] ([' '] ++ (Token.name "b").text.toList ++ []) [] :=
    .cons space rfl (by simp) .nil
  have both : SpellsBefore [.name "A", .name "b"] ([' '] ++ (Token.name "A").text.toList ++
      ([' '] ++ (Token.name "b").text.toList ++ [])) [] :=
    .cons space rfl (fun _ c hc => by cases hc; rfl) second
  exact ⟨List.cons_ne_nil _ _, _, [], rfl, both, List.forall_mem_nil _⟩

end ServiceClient.HostType

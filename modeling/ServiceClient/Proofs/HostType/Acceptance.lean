import ServiceClient.Proofs.HostType.Scanning
import ServiceClient.Proofs.Outcome

/-!
Reading against the grammar. A text is read as a type if and only if it denotes this type, and
any other text is refused.
-/

namespace ServiceClient.HostType

def EndsArgument (rest : List Token) : Prop :=
  rest.head? = some .comma ∨ rest.head? = some .closing

theorem EndsArgument.head_ne_opening {rest : List Token} (h : EndsArgument rest) :
    rest.head? ≠ some .opening := by
  rcases h with h | h <;> simp [h]

theorem wrapped_of_endsArgument {rest : List Token} (t : HostType) (h : EndsArgument rest) :
    wrapped t rest = (t, rest) := by
  cases rest with
  | nil => rfl
  | cons b rest => rcases h with h | h <;> cases h <;> rfl

theorem DerivesMore.endsArgument {us rest : List Token} {as : List HostType}
    (h : DerivesMore us as) (hrest : EndsArgument rest) : EndsArgument (us ++ rest) := by
  cases h with
  | nil => exact hrest
  | cons => exact .inl rfl

theorem exists_wrapped (t : HostType) (tokens : List Token) :
    ∃ marks, tokens = marks ++ (wrapped t tokens).2 ∧
      ∀ ts, Derives ts t → Derives (ts ++ marks) (wrapped t tokens).1 := by
  fun_induction wrapped t tokens with
  | case1 t rest ih =>
    obtain ⟨marks, split, derives⟩ := ih
    refine ⟨.optional :: marks, congrArg _ split, fun ts h => ?_⟩
    rw [List.append_cons]
    exact derives _ (.optional h)
  | case2 t rest ih =>
    obtain ⟨marks, split, derives⟩ := ih
    refine ⟨.array :: marks, congrArg _ split, fun ts h => ?_⟩
    rw [List.append_cons]
    exact derives _ (.array h)
  | case3 t rest => exact ⟨[], rfl, fun ts h => by simpa using h⟩

theorem readType_generic {depth : Nat} {n : String} {tokens middle rest : List Token} {a : HostType}
    {as : List HostType} (first : readType depth tokens = .ok (a, middle))
    (more : readMore depth middle = .ok (as, .closing :: rest)) :
    readType (depth + 1) (.name n :: .opening :: tokens)
      = .ok (wrapped { name := n, arguments := a :: as } rest) := by
  rw [readType, first]
  simp only [bind, Except.bind, more]
  rfl

theorem readMore_comma {depth : Nat} {tokens middle rest : List Token} {a : HostType}
    {as : List HostType} (first : readType depth tokens = .ok (a, middle))
    (more : readMore depth middle = .ok (as, rest)) :
    readMore (depth + 1) (.comma :: tokens) = .ok (a :: as, rest) := by
  rw [readMore, first]
  simp only [bind, Except.bind, more]
  rfl

mutual

theorem Derives.readType : ∀ {ts : List Token} {t : HostType}, Derives ts t →
    ∀ {depth : Nat} {rest : List Token}, ts.length ≤ depth → rest.head? ≠ some .opening →
      readType depth (ts ++ rest) = .ok (wrapped t rest)
  | _, _, .name, depth + 1, rest, _, hrest => by
    cases rest with
    | nil => rfl
    | cons b rest =>
      cases b with
      | opening => exact absurd rfl hrest
      | _ => rfl
  | _, _, .generic first more, depth + 1, rest, hdepth, _ => by
    simp only [List.length_cons, List.length_append] at hdepth
    rw [List.cons_append, List.cons_append, List.append_assoc, List.append_assoc]
    have ends := more.endsArgument (.inr (List.head?_cons (a := .closing) (l := rest)))
    have readFirst := first.readType (show _ ≤ depth by omega) ends.head_ne_opening
    rw [wrapped_of_endsArgument _ ends] at readFirst
    exact readType_generic readFirst (more.readMore (by omega) rfl)
  | _, _, .optional inner, depth, rest, hdepth, _ => by
    rw [List.append_assoc]
    exact inner.readType (by simp at hdepth; omega) (by simp)
  | _, _, .array inner, depth, rest, hdepth, _ => by
    rw [List.append_assoc]
    exact inner.readType (by simp at hdepth; omega) (by simp)

theorem DerivesMore.readMore : ∀ {us : List Token} {as : List HostType}, DerivesMore us as →
    ∀ {depth : Nat} {rest : List Token}, us.length ≤ depth → rest.head? = some .closing →
      readMore depth (us ++ rest) = .ok (as, rest)
  | _, _, .nil, depth, rest, _, hrest => by
    cases rest with
    | nil => contradiction
    | cons b rest =>
      cases hrest
      cases depth <;> rfl
  | _, _, .cons first more, depth + 1, rest, hdepth, hrest => by
    simp only [List.length_cons, List.length_append] at hdepth
    rw [List.cons_append, List.append_assoc]
    have ends := more.endsArgument (.inr hrest)
    have readFirst := first.readType (show _ ≤ depth by omega) ends.head_ne_opening
    rw [wrapped_of_endsArgument _ ends] at readFirst
    exact readMore_comma readFirst (more.readMore (by omega) hrest)

end

theorem readType_succ_cases {depth : Nat} {tokens rest : List Token} {t : HostType}
    (h : readType (depth + 1) tokens = .ok (t, rest)) :
    (∃ n tail, tokens = .name n :: tail ∧ wrapped { name := n } tail = (t, rest)) ∨
    ∃ n tail a middle as left, tokens = .name n :: .opening :: tail ∧
      readType depth tail = .ok (a, middle) ∧ readMore depth middle = .ok (as, .closing :: left) ∧
      wrapped { name := n, arguments := a :: as } left = (t, rest) := by
  rw [HostType.readType.eq_def] at h
  split at h
  case h_1 n tail same =>
    cases same
    obtain ⟨⟨a, middle⟩, first, h⟩ := Outcome.bind_eq_ok_iff.1 h
    obtain ⟨⟨as, final⟩, more, h⟩ := Outcome.bind_eq_ok_iff.1 h
    simp only at h
    split at h
    case h_1 left => exact .inr ⟨n, tail, a, middle, as, left, rfl, first, more, Except.ok.inj h⟩
    case h_2 => contradiction
  case h_2 => exact .inl ⟨_, _, rfl, Except.ok.inj h⟩
  all_goals contradiction

theorem readMore_cases {depth : Nat} {tokens rest : List Token} {as : List HostType}
    (h : readMore depth tokens = .ok (as, rest)) :
    (as = [] ∧ rest = tokens) ∨
    ∃ less tail a middle bs, depth = less + 1 ∧ tokens = .comma :: tail ∧ as = a :: bs ∧
      readType less tail = .ok (a, middle) ∧ readMore less middle = .ok (bs, rest) := by
  rw [HostType.readMore.eq_def] at h
  split at h
  case h_1 less tail =>
    obtain ⟨⟨a, middle⟩, first, h⟩ := Outcome.bind_eq_ok_iff.1 h
    obtain ⟨⟨bs, final⟩, more, h⟩ := Outcome.bind_eq_ok_iff.1 h
    cases h
    exact .inr ⟨less, tail, a, middle, bs, rfl, rfl, rfl, first, more⟩
  case h_2 =>
    cases h
    exact .inl ⟨rfl, rfl⟩

theorem derives_of_read (depth : Nat) :
    (∀ tokens t rest, readType depth tokens = .ok (t, rest) →
      ∃ ts, tokens = ts ++ rest ∧ Derives ts t) ∧
    ∀ tokens as rest, readMore depth tokens = .ok (as, rest) →
      ∃ us, tokens = us ++ rest ∧ DerivesMore us as := by
  -- The two readers call each other at a smaller depth.
  induction depth with
  | zero =>
    constructor
    · intro tokens t rest h
      simp [readType] at h
    · intro tokens as rest h
      obtain ⟨rfl, rfl⟩ | ⟨less, _, _, _, _, bound, _⟩ := readMore_cases h
      · exact ⟨[], rfl, .nil⟩
      · contradiction
  | succ depth ih =>
    constructor
    · intro tokens t rest h
      obtain ⟨n, tail, rfl, wraps⟩ | ⟨n, tail, a, middle, as, left, rfl, first, more, wraps⟩ :=
        readType_succ_cases h
      · obtain ⟨marks, split, derives⟩ := exists_wrapped { name := n } tail
        rw [wraps] at split derives
        exact ⟨.name n :: marks, congrArg _ split, derives _ .name⟩
      · obtain ⟨ts, rfl, hfirst⟩ := ih.1 _ _ _ first
        obtain ⟨us, rfl, hmore⟩ := ih.2 _ _ _ more
        obtain ⟨marks, split, derives⟩ := exists_wrapped { name := n, arguments := a :: as } left
        rw [wraps] at split derives
        refine ⟨_, ?_, derives _ (.generic hfirst hmore)⟩
        simp only at split
        simp [split]
    · intro tokens as rest h
      obtain ⟨rfl, rfl⟩ | ⟨less, tail, a, middle, bs, bound, rfl, rfl, first, more⟩ :=
        readMore_cases h
      · exact ⟨[], rfl, .nil⟩
      · cases bound
        obtain ⟨ts, rfl, hfirst⟩ := ih.1 _ _ _ first
        obtain ⟨us, rfl, hmore⟩ := ih.2 _ _ _ more
        exact ⟨_, by simp, .cons hfirst hmore⟩

theorem ofTokens_eq_ok_iff {tokens : List Token} {t : HostType} :
    ofTokens tokens = .ok t ↔ Derives tokens t := by
  constructor
  · intro h
    obtain ⟨⟨u, rest⟩, read, h⟩ := Outcome.bind_eq_ok_iff.1 h
    cases rest with
    | cons => contradiction
    | nil =>
      cases h
      obtain ⟨ts, rfl, derives⟩ := (derives_of_read _).1 _ _ _ read
      simpa using derives
  · intro h
    have read : readType (tokens.length + 1) (tokens ++ []) = .ok (wrapped t []) :=
      h.readType (by omega) (by simp)
    rw [List.append_nil] at read
    simp only [ofTokens, read, wrapped]
    rfl

theorem parse_eq_ok_iff {text : String} {t : HostType} : parse text = .ok t ↔ Denotes text t := by
  rw [parse, Outcome.mapError_eq_ok_iff, Outcome.bind_eq_ok_iff]
  constructor
  · rintro ⟨tokens, scanned, h⟩
    rw [Outcome.mapError_eq_ok_iff] at scanned
    split at h
    · contradiction
    · exact ⟨tokens, spells_of_scan scanned, ofTokens_eq_ok_iff.1 h⟩
  · rintro ⟨tokens, spells, derives⟩
    refine ⟨tokens, ?_, ?_⟩
    · rw [(scan_eq_ok_iff derives.parted).2 spells]
      rfl
    · cases tokens with
      | nil => exact absurd rfl derives.ne_nil
      | cons => exact ofTokens_eq_ok_iff.2 derives

/-- Reading accepts the texts of the grammar, each as the type that it denotes, in which no type is
marked. All others are refused with a fault. -/
theorem parse_iff_grammar (text : String) :
    (∀ t, parse text = .ok t ↔ Denotes text t) ∧ (∀ t, Denotes text t → t.Plain) ∧
      ((∃ fault, parse text = .error ⟨text, fault⟩) ↔ ∀ t, ¬Denotes text t) := by
  refine ⟨fun t => parse_eq_ok_iff, fun t h => h.plain, ?_, ?_⟩
  · rintro ⟨fault, refused⟩ t h
    rw [parse_eq_ok_iff.2 h] at refused
    contradiction
  · intro none
    cases h : parse text with
    | ok t => exact absurd (parse_eq_ok_iff.1 h) (none t)
    | error e =>
      obtain ⟨fault, _, rfl⟩ := Outcome.mapError_eq_error_iff.1 h
      exact ⟨fault, rfl⟩

theorem parse_iff_grammar_map : parse " Map< A , B[] >? " = .ok
    ⟨"Nullable", [⟨"Map", [⟨"A", [], false⟩, ⟨"Array", [⟨"B", [], false⟩], false⟩], false⟩],
      false⟩ := by
  have space : Blank [' '] := by decide
  have gap : Blank [] := by decide
  have name : ∀ {n : String}, isName n.toList = true → (Token.name n).IsLexeme := id
  refine ((parse_iff_grammar _).1 _).2
    ⟨[.name "Map", .opening, .name "A", .comma, .name "B", .array, .closing, .optional], ?_, ?_⟩
  · exact .cons space (name (by decide)) <| .cons gap trivial <|
      .cons space (name (by decide)) <| .cons space trivial <|
      .cons space (name (by decide)) <| .cons gap trivial <|
      .cons space trivial <| .cons gap trivial <| .nil space
  · exact .optional (.generic .name (.cons (.array .name) .nil))

end ServiceClient.HostType

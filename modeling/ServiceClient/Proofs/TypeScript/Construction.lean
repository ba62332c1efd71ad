import ServiceClient.Entry
import ServiceClient.Proofs.Outcome
import ServiceClient.Proofs.TypeScript.Marking

namespace ServiceClient

theorem one_ne_each (name name' : String) :
    "new " ++ name ++ "(res.json())" ≠ "res.json().map(r => new " ++ name' ++ "(r))" := by
  intro h
  have characters := congrArg String.toList h
  simp at characters

theorem one_ne_plain (name : String) : "new " ++ name ++ "(res.json())" ≠ "res.json()" := by
  intro h
  have characters := congrArg String.toList h
  simp at characters

theorem each_ne_plain (name : String) :
    "res.json().map(r => new " ++ name ++ "(r))" ≠ "res.json()" := by
  intro h
  have characters := congrArg String.toList h
  simp at characters

namespace TypeScript.Mapping

variable {m : Mapping} {t : HostType} {mapped : Mapped}

def core (m : Mapping) (t : HostType) : HostType :=
  match _h : m.rule t with
  | .wrapper content => m.core content
  | _ => t
termination_by t
decreasing_by exact sizeOf_lt_of_mem_contents (m := m) (by simp [_h, Rule.contents])

def IsModel (m : Mapping) (t : HostType) : Prop :=
  m.overrides.lookup t.simpleName = none ∧ m.registry.isModel t = true

instance (m : Mapping) : DecidablePred m.IsModel := fun _ => inferInstanceAs (Decidable (_ ∧ _))

theorem core_eq (m : Mapping) (t : HostType) :
    m.core t = match m.rule t with
      | .wrapper content => m.core content
      | _ => t := by
  rw [core]
  split <;> simp only [*]

theorem map_core (m : Mapping) (t : HostType) : m.map (m.core t) = m.map t := by
  induction t using core.induct m with
  | case1 t content hrule ih => rw [core_eq, hrule, map_eq m t, hrule, ih]
  | case2 t other =>
    rw [core_eq]
    split
    · next content hrule => exact absurd hrule (other content)
    · rfl

theorem rule_core_ne_wrapper (m : Mapping) (t content : HostType) :
    m.rule (m.core t) ≠ .wrapper content := by
  induction t using core.induct m with
  | case1 t inner hrule ih => rwa [core_eq, hrule]
  | case2 t other =>
    rw [core_eq]
    split
    · next inner hrule => exact absurd hrule (other inner)
    · exact other content

theorem rule_of_isModel (h : m.IsModel t) :
    m.rule t =
      .atom { expression := t.simpleName, isModel := true, modelName := some t.simpleName } := by
  simp [rule, cases, override?, h.1, model?, h.2]

theorem map_of_isModel (h : m.IsModel t) :
    m.map t = .ok
      { expression := t.simpleName, isModel := true, modelName := some t.simpleName } := by
  rw [map_eq, rule_of_isModel h]

theorem plain_or_model_of_mem_cases {case : HostType → Option Rule} (hcase : case ∈ m.cases)
    (h : case t = some (.atom mapped)) :
    (mapped.isModel = false ∧ mapped.isModelCollection = false) ∨
      m.model? t = some (.atom mapped) := by
  simp only [cases, List.mem_cons, List.not_mem_nil, or_false] at hcase
  rcases hcase with rfl | rfl | rfl | rfl | rfl | rfl | rfl
  · obtain ⟨_, _, ⟨⟩⟩ := Option.map_eq_some_iff.1 h
    exact .inl ⟨rfl, rfl⟩
  · exact .inr h
  · rw [wrapper?] at h
    split at h <;> try (split at h)
    all_goals simp at h
  · rw [date?] at h
    split at h <;> simp at h
    simp [← h]
  · rw [primitive?] at h
    split at h <;> simp at h
    obtain ⟨_, _, rfl⟩ := h
    exact .inl ⟨rfl, rfl⟩
  · rw [sequence?] at h
    split at h <;> try (split at h)
    all_goals simp at h
  · rw [dictionary?] at h
    split at h <;> try (split at h)
    all_goals simp at h

theorem plain_of_atom (other : ¬m.IsModel t) (h : m.rule t = .atom mapped) :
    mapped.isModel = false ∧ mapped.isModelCollection = false := by
  cases hoverride : m.override? t with
  | some r =>
    have same : r = .atom mapped := by simpa [rule, cases, hoverride] using h
    obtain ⟨_, _, rfl⟩ := Option.map_eq_some_iff.1 hoverride
    cases same
    exact ⟨rfl, rfl⟩
  | none =>
    have free : m.overrides.lookup t.simpleName = none := by simpa [override?] using hoverride
    have unregistered : m.model? t = none := by simpa [model?] using mt (.intro free) other
    rw [rule] at h
    cases hfound : m.cases.findSome? (· t) with
    | none => simp [hfound] at h
    | some r =>
      obtain ⟨case, hcase, hr⟩ := List.exists_of_findSome?_eq_some hfound
      obtain rfl : r = .atom mapped := by simpa [hfound] using h
      have plain := plain_or_model_of_mem_cases hcase hr
      simpa [unregistered] using plain

def one? (m : Mapping) (t : HostType) : Option HostType :=
  if m.IsModel (m.core t) then some (m.core t) else none

def each? (m : Mapping) (t : HostType) : Option HostType :=
  match m.rule (m.core t) with
  | .sequence element => m.one? element
  | _ => none

theorem rule_of_one? {model : HostType} (h : m.one? t = some model) :
    m.rule (m.core t) = .atom
      { expression := model.simpleName, isModel := true, modelName := some model.simpleName } := by
  rw [one?] at h
  split at h
  · next isModel =>
    cases h
    exact rule_of_isModel isModel
  · contradiction

theorem map_of_one? {model : HostType} (h : m.one? t = some model) :
    m.map t = .ok
      { expression := model.simpleName, isModel := true, modelName := some model.simpleName } := by
  rw [← map_core, map_eq, rule_of_one? h]

theorem each?_of_one? {model : HostType} (h : m.one? t = some model) : m.each? t = none := by
  rw [each?, rule_of_one? h]

theorem array_or_plain (nothing : m.one? t = none) (h : m.map t = .ok mapped) :
    (∃ element content, m.rule (m.core t) = .sequence element ∧ m.map element = .ok content ∧
        mapped = content.array) ∨
      m.each? t = none ∧ mapped.isModel = false ∧ mapped.isModelCollection = false := by
  have other : ¬m.IsModel (m.core t) := by simpa [one?] using nothing
  rw [← map_core, map_eq] at h
  cases hrule : m.rule (m.core t) with
  | atom atom =>
    obtain rfl : atom = mapped := by simpa [hrule] using h
    exact .inr ⟨by rw [each?, hrule], plain_of_atom other hrule⟩
  | wrapper content => exact absurd hrule (rule_core_ne_wrapper m t content)
  | sequence element =>
    rw [hrule] at h
    obtain ⟨content, hcontent, ⟨⟩⟩ := Outcome.bind_eq_ok_iff.1 h
    exact .inl ⟨element, content, rfl, hcontent, rfl⟩
  | dictionary key value =>
    rw [hrule] at h
    obtain ⟨_, _, h⟩ := Outcome.bind_eq_ok_iff.1 h
    obtain ⟨_, _, ⟨⟩⟩ := Outcome.bind_eq_ok_iff.1 h
    exact .inr ⟨by rw [each?, hrule], rfl, rfl⟩
  | unmappable fault => simp [hrule] at h

theorem isModel_of_map (nothing : m.one? t = none) (h : m.map t = .ok mapped) :
    mapped.isModel = false := by
  obtain ⟨_, _, _, _, rfl⟩ | ⟨_, single, _⟩ := array_or_plain nothing h
  · rfl
  · exact single

theorem resultMapping_of_plain (single : mapped.isModel = false)
    (collection : mapped.isModelCollection = false) : mapped.resultMapping = "res.json()" := by
  simp [Mapped.resultMapping, single, collection]

theorem resultMapping_of_map (h : m.map t = .ok mapped) :
    mapped.resultMapping = match m.one? t, m.each? t with
      | some model, _ => "new " ++ model.simpleName ++ "(res.json())"
      | none, some model => "res.json().map(r => new " ++ model.simpleName ++ "(r))"
      | none, none => "res.json()" := by
  cases hone : m.one? t with
  | some model =>
    rw [map_of_one? hone] at h
    cases h
    rfl
  | none =>
    obtain ⟨element, content, hrule, hcontent, rfl⟩ | ⟨hnone, single, collection⟩ :=
      array_or_plain hone h
    · have heach : m.each? t = m.one? element := by rw [each?, hrule]
      rw [heach]
      cases helement : m.one? element with
      | some model =>
        rw [map_of_one? helement] at hcontent
        cases hcontent
        rfl
      | none => exact resultMapping_of_plain rfl (isModel_of_map helement hcontent)
    · rw [hnone]
      exact resultMapping_of_plain single collection

def constructed? (m : Mapping) (t : HostType) : Option HostType := (m.one? t).or (m.each? t)

theorem constructed?_of_isModel (h : m.IsModel t) : m.constructed? t = some t := by
  have core : m.core t = t := by rw [core_eq, rule_of_isModel h]
  rw [constructed?, one?, core, if_pos h, Option.some_or]

theorem isModel_of_one? {model : HostType} (h : m.one? t = some model) :
    m.registry.isModel model = true := by
  rw [one?] at h
  split at h
  · next isModel =>
    cases h
    exact isModel.2
  · contradiction

theorem isModel_of_constructed? {model : HostType} (h : m.constructed? t = some model) :
    m.registry.isModel model = true := by
  obtain one | ⟨_, each⟩ := Option.or_eq_some_iff.1 h
  · exact isModel_of_one? one
  · rw [each?] at each
    split at each
    · exact isModel_of_one? each
    · contradiction

end TypeScript.Mapping

end ServiceClient

import ServiceClient.Proofs.TypeScript.Rule

namespace ServiceClient.TypeScript

structure Mapped.IsLabelled (mapped : Mapped) : Prop where
  named : mapped.modelName.isSome ↔ mapped.isModel = true ∨ mapped.isModelCollection = true
  single : ¬(mapped.isModel = true ∧ mapped.isModelCollection = true)

theorem Mapped.IsLabelled.array {element : Mapped} (h : element.IsLabelled) :
    element.array.IsLabelled := by
  cases isModel : element.isModel with
  | true =>
    have named : element.modelName.isSome := h.named.2 (.inl isModel)
    exact ⟨by simp [Mapped.array, isModel, named], by simp [Mapped.array]⟩
  | false => exact ⟨by simp [Mapped.array, isModel], by simp [Mapped.array]⟩

@[simp] theorem Mapped.isModel_indexed (value : Mapped) : value.indexed.isModel = false := rfl

@[simp] theorem Mapped.isModelCollection_indexed (value : Mapped) :
    value.indexed.isModelCollection = false := rfl

@[simp] theorem Mapped.modelName_indexed (value : Mapped) : value.indexed.modelName = none := rfl

namespace Mapping

variable {m : Mapping} {t : HostType} {mapped : Mapped}

/-- Whether a type is a wrapper around another one. Overrides and models are none. -/
def IsWrapperOf (m : Mapping) (t content : HostType) : Prop :=
  m.IsOrdinary t ∧ t.simpleName ∈ wrappers ∧ t.arguments = [content]

instance (m : Mapping) (t content : HostType) : Decidable (m.IsWrapperOf t content) :=
  inferInstanceAs (Decidable (_ ∧ _))

def unwrapped (m : Mapping) : HostType → HostType
  | ⟨name, [content], isModel⟩ =>
    if m.IsWrapperOf ⟨name, [content], isModel⟩ content then m.unwrapped content
    else ⟨name, [content], isModel⟩
  | t => t

def IsSequenceOf (m : Mapping) (t element : HostType) : Prop :=
  m.IsOrdinary t ∧ t.simpleName ∈ sequences ∧ t.arguments = [element]

instance (m : Mapping) (t element : HostType) : Decidable (m.IsSequenceOf t element) :=
  inferInstanceAs (Decidable (_ ∧ _))

def IsOne (m : Mapping) (t : HostType) (name : String) : Prop :=
  m.IsModel (m.unwrapped t) ∧ (m.unwrapped t).simpleName = name

def IsMany (m : Mapping) (t : HostType) (name : String) : Prop :=
  ∃ element, m.IsSequenceOf (m.unwrapped t) element ∧ m.IsOne element name

theorem isLabelled_of_map (h : m.map t = .ok mapped) : mapped.IsLabelled := by
  induction t using map.induct m generalizing mapped with
  | case1 t atom hrule =>
    rw [map_eq, hrule] at h
    cases h
    cases rule_eq_iff.1 hrule with
    | override | model | date | primitive => exact ⟨by simp, by simp⟩
  | case2 t content hrule ih =>
    rw [map_eq, hrule] at h
    exact ih h
  | case3 t element hrule ih =>
    rw [map_eq, hrule] at h
    obtain ⟨content, hcontent, ⟨⟩⟩ := Outcome.bind_eq_ok_iff.1 h
    exact (ih hcontent).array
  | case4 t key value hrule ihKey ihValue =>
    rw [map_eq, hrule] at h
    obtain ⟨_, _, h⟩ := Outcome.bind_eq_ok_iff.1 h
    obtain ⟨_, _, ⟨⟩⟩ := Outcome.bind_eq_ok_iff.1 h
    exact ⟨by simp, by simp⟩
  | case5 t fault hrule =>
    rw [map_eq, hrule] at h
    contradiction

theorem rule_eq_wrapper_iff {content : HostType} :
    m.rule t = .wrapper content ↔ m.IsWrapperOf t content := by
  rw [rule_eq_iff]
  constructor
  · rintro (_ | _ | ⟨ordinary, name, arguments⟩)
    exact ⟨ordinary, name, arguments⟩
  · rintro ⟨ordinary, name, arguments⟩
    exact .wrapper ordinary name arguments

theorem rule_eq_sequence_iff {element : HostType} :
    m.rule t = .sequence element ↔ m.IsSequenceOf t element := by
  rw [rule_eq_iff]
  constructor
  · rintro (_ | _ | _ | _ | _ | ⟨ordinary, name, arguments⟩)
    exact ⟨ordinary, name, arguments⟩
  · rintro ⟨ordinary, name, arguments⟩
    exact .sequence ordinary name arguments

theorem map_of_isWrapperOf {content : HostType} (h : m.IsWrapperOf t content) :
    m.map t = m.map content := by
  rw [map_eq m t, rule_eq_wrapper_iff.2 h]

theorem map_of_isSequenceOf {element : HostType} (h : m.IsSequenceOf t element) :
    m.map t = return (← m.map element).array := by
  rw [map_eq m t, rule_eq_sequence_iff.2 h]

theorem unwrapped_of_isWrapperOf {content : HostType} (h : m.IsWrapperOf t content) :
    m.unwrapped t = m.unwrapped content := by
  obtain ⟨name, arguments, isModel⟩ := t
  obtain rfl : arguments = [content] := h.2.2
  rw [unwrapped, if_pos h]

theorem unwrapped_of_forall_not (h : ∀ content, ¬m.IsWrapperOf t content) : m.unwrapped t = t := by
  obtain ⟨name, arguments, isModel⟩ := t
  rcases arguments with _ | ⟨content, _ | ⟨other, more⟩⟩
  · rfl
  · rw [unwrapped, if_neg (h content)]
  · rfl

theorem unwrapped_eq_core (m : Mapping) (t : HostType) : m.unwrapped t = m.core t := by
  induction t using core.induct m with
  | case1 t content hrule ih =>
    rw [unwrapped_of_isWrapperOf (rule_eq_wrapper_iff.1 hrule), ih, core_eq m t, hrule]
  | case2 t other =>
    have bare : ∀ content, ¬m.IsWrapperOf t content := by
      intro content h
      exact other content (rule_eq_wrapper_iff.2 h)
    rw [unwrapped_of_forall_not bare, core_eq]
    split
    · next content hrule => exact absurd hrule (other content)
    · rfl

theorem isOne_iff {name : String} :
    m.IsOne t name ↔ ∃ model, m.one? t = some model ∧ model.simpleName = name := by
  rw [IsOne, unwrapped_eq_core, one?]
  split <;> simp_all

theorem isMany_iff {name : String} :
    m.IsMany t name ↔ ∃ model, m.each? t = some model ∧ model.simpleName = name := by
  simp only [IsMany, unwrapped_eq_core, ← rule_eq_sequence_iff, isOne_iff, each?]
  split <;> simp_all

theorem resultMapping_eq_one_iff (h : m.map t = .ok mapped) {name : String} :
    mapped.resultMapping = "new " ++ name ++ "(res.json())" ↔ m.IsOne t name := by
  rw [resultMapping_of_map h, isOne_iff]
  cases m.one? t with
  | some model => simp
  | none =>
    cases m.each? t with
    | some model => simp [(one_ne_each name model.simpleName).symm]
    | none => simp [(one_ne_plain name).symm]

theorem resultMapping_eq_many_iff (h : m.map t = .ok mapped) {name : String} :
    mapped.resultMapping = "res.json().map(r => new " ++ name ++ "(r))" ↔ m.IsMany t name := by
  rw [resultMapping_of_map h, isMany_iff]
  cases hone : m.one? t with
  | some model => simp [one_ne_each, each?_of_one? hone]
  | none =>
    cases m.each? t with
    | some model => simp
    | none => simp [(each_ne_plain name).symm]

theorem resultMapping_eq_plain_iff (h : m.map t = .ok mapped) :
    mapped.resultMapping = "res.json()" ↔ ∀ name, ¬m.IsOne t name ∧ ¬m.IsMany t name := by
  simp only [resultMapping_of_map h, isOne_iff, isMany_iff]
  cases hone : m.one? t with
  | some model => simp [one_ne_plain, each?_of_one? hone]
  | none =>
    cases m.each? t with
    | some model => simp [each_ne_plain]
    | none => simp

/-- One instance is constructed just for a model inside wrappers, many just for a sequence inside
wrappers of models inside wrappers, and the response is taken as it came for all else. The model is
named just if there is one, and no result is one instance and many. -/
theorem resultMapping_iff (h : m.map t = .ok mapped) :
    (∀ name, mapped.resultMapping = "new " ++ name ++ "(res.json())" ↔ m.IsOne t name) ∧
    (∀ name, mapped.resultMapping = "res.json().map(r => new " ++ name ++ "(r))" ↔
      m.IsMany t name) ∧
    (mapped.resultMapping = "res.json()" ↔ ∀ name, ¬m.IsOne t name ∧ ¬m.IsMany t name) ∧
    (mapped.modelName.isSome ↔ mapped.isModel = true ∨ mapped.isModelCollection = true) ∧
    ¬(mapped.isModel = true ∧ mapped.isModelCollection = true) := by
  have labelled := isLabelled_of_map h
  refine ⟨fun name => ?_, fun name => ?_, ?_, labelled.named, labelled.single⟩
  · exact resultMapping_eq_one_iff h
  · exact resultMapping_eq_many_iff h
  · exact resultMapping_eq_plain_iff h

theorem resultMapping_iff_task :
    let m : Mapping := { registry := ⟨["User"]⟩, overrides := [("ValueTask", "any")] }
    let user : HostType := { name := "Models.User" }
    let element : HostType := { name := "Nullable", arguments := [user] }
    let users : HostType := { name := "List`1", arguments := [element] }
    let t : HostType := { name := "Task", arguments := [users] }
    ∃ mapped, m.map t = .ok mapped ∧
      mapped.resultMapping = "res.json().map(r => new User(r))" ∧ mapped.modelName.isSome := by
  intro m user element users t
  have isModel : m.IsModel user := by decide +kernel
  have inner : m.IsWrapperOf element user := by decide +kernel
  have sequence : m.IsSequenceOf users element := by decide +kernel
  have outer : m.IsWrapperOf t users := by decide +kernel
  have bareUser : m.unwrapped element = user := by
    rw [unwrapped_of_isWrapperOf inner]
    decide +kernel
  have bareUsers : m.unwrapped t = users := by
    rw [unwrapped_of_isWrapperOf outer]
    decide +kernel
  have mapped := calc
    m.map t = m.map users := map_of_isWrapperOf outer
    _ = return (← m.map element).array := map_of_isSequenceOf sequence
    _ = return (← m.map user).array := by rw [map_of_isWrapperOf inner]
    _ = .ok _ := by
      rw [map_of_isModel isModel]
      rfl
  have one : m.IsOne element "User" := by
    rw [IsOne, bareUser]
    exact ⟨isModel, by decide +kernel⟩
  obtain ⟨-, many, -, named, -⟩ := resultMapping_iff mapped
  refine ⟨_, mapped, (many "User").2 ⟨element, ?_, one⟩, named.2 (.inr rfl)⟩
  rw [bareUsers]
  exact sequence

end Mapping

end ServiceClient.TypeScript

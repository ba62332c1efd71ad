import ServiceClient.Proofs.Pointwise
import ServiceClient.Proofs.Value
import ServiceClient.Validation.Reader

namespace ServiceClient.Validation

abbrev Replacements := List (String × (Value → Value → Prop))

def Replacements.at (rs : Replacements) : (key : Value) → Value → Value → Prop
  | .text name => (rs.lookup name).getD Eq
  | _ => Eq

def Replacements.Entry (rs : Replacements) (e e' : Value × Value) : Prop :=
  e.1 = e'.1 ∧ rs.at e.1 e.2 e'.2

inductive Replacements.Record (rs : Replacements) : Value → Value → Prop
  | refl (v : Value) : rs.Record v v
  | mapping {es es' : List (Value × Value)} (h : List.Forall₂ rs.Entry es es') :
    rs.Record (.mapping es) (.mapping es')

inductive ItemsReplaced (R : Value → Value → Prop) : Value → Value → Prop
  | refl (v : Value) : ItemsReplaced R v v
  | list {items items' : List Value} (h : List.Forall₂ R items items') :
    ItemsReplaced R (.list items) (.list items')

variable {α : Type}

theorem eachFrom_replaced {R : Value → Value → Prop} {read : Value → Checked α}
    {items items' : List Value} (h : List.Forall₂ R items items')
    (same : ∀ w w', R w w' → read w = read w') (i : Int) :
    eachFrom read i items = eachFrom read i items' := by
  induction h generalizing i with
  | nil => rfl
  | cons hw _ ih => rw [eachFrom, eachFrom, same _ _ hw, ih]

theorem list_replaced {R : Value → Value → Prop} {read : Value → Checked α} {v v' : Value}
    (h : ItemsReplaced R v v') (same : ∀ w w', R w w' → read w = read w') :
    list read v = list read v' := by
  cases h with
  | refl => rfl
  | list h => exact eachFrom_replaced h same 0

namespace Replacements

variable {rs : Replacements} {es es' : List (Value × Value)} (h : List.Forall₂ rs.Entry es es')
include h

theorem get?_cases (name : String) :
    Value.get? name es = none ∧ Value.get? name es' = none ∨
      ∃ w w', Value.get? name es = some w ∧ Value.get? name es' = some w' ∧
        rs.at (.text name) w w' := by
  induction h with
  | nil => exact .inl ⟨rfl, rfl⟩
  | @cons e e' _ _ he _ ih =>
    obtain ⟨k, w⟩ := e
    obtain ⟨k', w'⟩ := e'
    obtain ⟨rfl, hw⟩ := he
    by_cases same : k = .text name
    · subst same
      exact .inr ⟨w, w', by simp, by simp, hw⟩
    · rwa [Value.get?_cons_of_ne same, Value.get?_cons_of_ne same]

theorem field_eq (name : String) {read : Value → Checked α}
    (same : ∀ w w', rs.at (.text name) w w' → read w = read w') :
    field es name read = field es' name read := by
  obtain ⟨none, none'⟩ | ⟨w, w', some, some', hw⟩ := get?_cases h name
  · rw [field, field, none, none']
  · simp only [field, some, some', same w w' hw]

theorem fieldOr_eq (name : String) {default : α} {read : Value → Checked α}
    (same : ∀ w w', rs.at (.text name) w w' → read w = read w') :
    fieldOr es name default read = fieldOr es' name default read := by
  obtain ⟨none, none'⟩ | ⟨w, w', some, some', hw⟩ := get?_cases h name
  · rw [fieldOr, fieldOr, none, none']
  · simp only [fieldOr, some, some', same w w' hw]

theorem isSome_get? (name : String) :
    (Value.get? name es).isSome = (Value.get? name es').isSome := by
  obtain ⟨none, none'⟩ | ⟨w, w', some, some', _⟩ := get?_cases h name
  · rw [none, none']
  · rw [some, some']
    rfl

theorem keyProblem?_eq (fields : List String) : keyProblem? fields es = keyProblem? fields es' := by
  funext k
  cases k with
  | bytes data => simp only [keyProblem?, isSome_get? h]
  | _ => rfl

theorem strangers_eq (fields : List String) : strangers fields es = strangers fields es' := by
  have keys : es.map Prod.fst = es'.map Prod.fst := Pointwise.map_eq h fun _ _ he => he.1
  have of_keys (es : List (Value × Value)) : strangers fields es =
      (es.map Prod.fst).filterMap fun k =>
        (keyProblem? fields es k).map fun problem => ⟨[keyStep k], problem⟩ := by
    rw [List.filterMap_map]
    rfl
  rw [of_keys, of_keys, keys, keyProblem?_eq h]

theorem closed_eq (fields : List String) (c : Checked α) :
    closed fields es c = closed fields es' c := by
  rw [closed, closed, strangers_eq h]

omit h in
theorem record_replaced {record : String} {fields : List String} {v v' : Value}
    {read : List (Value × Value) → Checked α} (h : rs.Record v v')
    (same : ∀ es es', List.Forall₂ rs.Entry es es' → read es = read es') :
    (entries record v).andThen (fun es => closed fields es (read es)) =
      (entries record v').andThen fun es => closed fields es (read es) := by
  cases h with
  | refl => rfl
  | mapping h =>
    simp only [entries, Value.entries?, Value.opened, Checked.andThen]
    rw [closed_eq h, same _ _ h]

end Replacements

end ServiceClient.Validation

import ServiceClient.Value

namespace ServiceClient.Value

def HasField (name : String) (v w : Value) : Prop :=
  ∃ es, v.entries? = some es ∧ get? name es = some w

def HasItem (name : String) (v u : Value) : Prop :=
  ∃ w items, v.HasField name w ∧ w.items? = some items ∧ u ∈ items

theorem HasField.inj {name : String} {v w w' : Value} (h : v.HasField name w)
    (h' : v.HasField name w') : w = w' := by
  obtain ⟨es, hes, hw⟩ := h
  obtain ⟨fields, hfields, hw'⟩ := h'
  cases hes.symm.trans hfields
  exact Option.some.inj (hw.symm.trans hw')

theorem sameKey_text_iff {k : Value} {key : String} :
    k.sameKey (.text key) = true ↔ k = .text key := by
  cases k with
  | text s => simp [sameKey]
  | number x => cases x <;> simp [sameKey, keyNumber?]
  | _ => simp [sameKey, keyNumber?]

theorem get?_cons_of_ne {name : String} {k v : Value} {entries : List (Value × Value)}
    (h : k ≠ .text name) : get? name ((k, v) :: entries) = get? name entries := by
  cases k with
  | text s => rw [get?, if_neg fun same => h (congrArg Value.text same)]
  | _ => rfl

@[simp] theorem get?_cons_text (name s : String) (v : Value) (entries : List (Value × Value)) :
    get? name ((.text s, v) :: entries) = if s = name then some v else get? name entries := rfl

theorem get?_append (name : String) (as bs : List (Value × Value)) :
    get? name (as ++ bs) = (get? name as).or (get? name bs) := by
  induction as with
  | nil => rfl
  | cons a as ih =>
    obtain ⟨k, v⟩ := a
    by_cases h : k = .text name
    · subst h
      simp [get?]
    · rw [List.cons_append, get?_cons_of_ne h, get?_cons_of_ne h, ih]

theorem get?_insert (name key : String) (value : Value) (entries : List (Value × Value)) :
    get? name (insert (.text key) value entries) =
      if key = name then some value else get? name entries := by
  induction entries with
  | nil => rfl
  | cons e entries ih =>
    obtain ⟨k, v⟩ := e
    by_cases same : k = .text key
    · subst same
      rw [insert, if_pos (sameKey_text_iff.2 rfl)]
      by_cases h : key = name <;> simp [h]
    · rw [insert, if_neg (mt sameKey_text_iff.1 same)]
      by_cases h : k = .text name
      · subst h
        have other : key ≠ name := fun h => same (congrArg Value.text h.symm)
        simp [other]
      · rw [get?_cons_of_ne h, get?_cons_of_ne h, ih]

def without (names : List String) (entries : List (Value × Value)) : List (Value × Value) :=
  entries.filter fun e => !names.any fun name => e.1.sameKey (.text name)

theorem any_sameKey_text_iff {names : List String} {k : Value} :
    (names.any fun name => k.sameKey (.text name)) = true ↔ ∃ name ∈ names, k = .text name := by
  simp [sameKey_text_iff]

theorem without_cons (names : List String) (k v : Value) (entries : List (Value × Value)) :
    without names ((k, v) :: entries) =
      if names.any fun name => k.sameKey (.text name) then without names entries
      else (k, v) :: without names entries := by
  rw [without, List.filter_cons]
  cases names.any fun name => k.sameKey (.text name) <;> rfl

theorem without_insert {names : List String} {key : String} (h : key ∈ names) (value : Value)
    (entries : List (Value × Value)) :
    without names (insert (.text key) value entries) = without names entries := by
  have named := any_sameKey_text_iff.2 ⟨key, h, rfl⟩
  induction entries with
  | nil =>
    rw [insert, without_cons, if_pos named]
  | cons e entries ih =>
    obtain ⟨k, v⟩ := e
    rw [insert]
    split
    · next same =>
      obtain rfl := sameKey_text_iff.1 same
      rw [without_cons, without_cons, if_pos named, if_pos named]
    · rw [without_cons, without_cons, ih]

theorem without_without {names fewer : List String} (h : fewer ⊆ names)
    (entries : List (Value × Value)) :
    without names (without fewer entries) = without names entries := by
  rw [without, without, List.filter_filter]
  apply List.filter_congr
  intro e _
  rw [Bool.and_eq_left_iff_imp, Bool.not_eq_true', Bool.not_eq_true', ← Bool.not_eq_true,
    ← Bool.not_eq_true, any_sameKey_text_iff, any_sameKey_text_iff]
  rintro others ⟨name, member, same⟩
  exact others ⟨name, h member, same⟩

theorem get?_without {names : List String} {name : String} (h : name ∉ names)
    (entries : List (Value × Value)) : get? name (without names entries) = get? name entries := by
  induction entries with
  | nil => rfl
  | cons e entries ih =>
    obtain ⟨k, v⟩ := e
    rw [without_cons]
    split
    · next named =>
      obtain ⟨other, member, rfl⟩ := any_sameKey_text_iff.1 named
      have differ : other ≠ name := by
        rintro rfl
        exact h member
      rw [ih, get?_cons_text, if_neg differ]
    · by_cases same : k = .text name
      · subst same
        simp
      · rw [get?_cons_of_ne same, get?_cons_of_ne same, ih]

end ServiceClient.Value

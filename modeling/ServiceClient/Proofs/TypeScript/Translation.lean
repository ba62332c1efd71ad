import ServiceClient.Proofs.HostType.Nodes
import ServiceClient.Proofs.TypeScript.Expression
import ServiceClient.Proofs.TypeScript.Rule

/-!
What the expression of a type stands for. Without overrides it is read in one way, and it stands for
the type itself: models and plain names by their names, arrays for sequences, index signatures for
dictionaries, and nothing for wrappers.
-/

namespace ServiceClient

namespace TypeScript

/-- What a type stands for if there are no overrides. A model stands for itself, whatever else its
name would say. -/
inductive Translates (r : Registry) : HostType → Shape → Prop
  | model {t : HostType} (known : r.isModel t = true) : Translates r t (.atom t.simpleName)
  | wrapper {t content : HostType} {s : Shape} (other : r.isModel t = false)
    (name : t.simpleName ∈ wrappers) (arguments : t.arguments = [content])
    (inner : Translates r content s) : Translates r t s
  | sequence {t element : HostType} {s : Shape} (other : r.isModel t = false)
    (name : t.simpleName ∈ sequences) (arguments : t.arguments = [element])
    (inner : Translates r element s) : Translates r t (.array s)
  | dictionary {t key value : HostType} {s : Shape} (other : r.isModel t = false)
    (name : t.simpleName ∈ dictionaries) (arguments : t.arguments = [key, value])
    (inner : Translates r value s) : Translates r t (.index s)
  | date {t : HostType} (other : r.isModel t = false) (name : t.simpleName ∈ dates)
    (arguments : t.arguments = []) : Translates r t (.atom "moment.Moment")
  | primitive {t : HostType} {atom : String} (other : r.isModel t = false)
    (name : primitiveExpression? t.simpleName = some atom) (arguments : t.arguments = []) :
    Translates r t (.atom atom)

def Rule.Translates (inner : HostType → Shape → Prop) : Rule → Shape → Prop
  | .atom mapped, s => s = .atom mapped.expression
  | .wrapper content, s => inner content s
  | .sequence element, s => ∃ s', inner element s' ∧ s = .array s'
  | .dictionary _ value, s => ∃ s', inner value s' ∧ s = .index s'
  | .unmappable _, _ => False

variable {r : Registry} {t : HostType} {s : Shape} {mapped : Mapped}

theorem translates_iff :
    Translates r t s ↔ ((Mapping.mk r []).rule t).Translates (Translates r) s := by
  constructor
  · intro h
    cases h with
    | model known => rw [Mapping.rule_of_fallsUnder (.model ⟨rfl, known⟩), Rule.Translates]
    | wrapper other name arguments inner =>
      rw [Mapping.rule_of_fallsUnder (.wrapper ⟨rfl, other⟩ name arguments)]
      exact inner
    | sequence other name arguments inner =>
      rw [Mapping.rule_of_fallsUnder (.sequence ⟨rfl, other⟩ name arguments)]
      exact ⟨_, inner, rfl⟩
    | dictionary other name arguments inner =>
      rw [Mapping.rule_of_fallsUnder (.dictionary ⟨rfl, other⟩ name arguments)]
      exact ⟨_, inner, rfl⟩
    | date other name arguments =>
      rw [Mapping.rule_of_fallsUnder (.date ⟨rfl, other⟩ name arguments), Rule.Translates]
    | primitive other name arguments =>
      rw [Mapping.rule_of_fallsUnder (.primitive ⟨rfl, other⟩ name arguments), Rule.Translates]
  · obtain ⟨rule, h⟩ := (Mapping.mk r []).exists_fallsUnder t
    rw [Mapping.rule_of_fallsUnder h]
    cases h with
    | override known => contradiction
    | model known =>
      rintro rfl
      exact .model known.2
    | wrapper ordinary name arguments => exact .wrapper ordinary.2 name arguments
    | date ordinary name arguments =>
      rintro rfl
      exact .date ordinary.2 name arguments
    | primitive ordinary name arguments =>
      rintro rfl
      exact .primitive ordinary.2 name arguments
    | sequence ordinary name arguments =>
      rintro ⟨s', inner, rfl⟩
      exact .sequence ordinary.2 name arguments inner
    | dictionary ordinary name arguments =>
      rintro ⟨s', inner, rfl⟩
      exact .dictionary ordinary.2 name arguments inner
    | unmappable unknown => exact False.elim

theorem isDotted_of_primitive {name atom : String} (h : primitiveExpression? name = some atom) :
    IsDotted atom.toList := by
  have identifier : atom ∈ ["number", "boolean", "string", "any", "void"] := by
    rw [primitiveExpression?] at h
    split_ifs at h <;> simp_all
  have all : ∀ atom ∈ ["number", "boolean", "string", "any", "void"],
      isIdentifier atom = true := by
    decide
  exact .single (all atom identifier)

theorem isDotted_moment : IsDotted "moment.Moment".toList :=
  @IsDotted.dot "moment".toList "Moment".toList rfl (.single rfl)

/-- Whether every model in a type, registered or marked, is called by an identifier. -/
def NamesModels (r : Registry) (t : HostType) : Prop :=
  ∀ u ∈ t.nodes, r.isModel u = true → isIdentifier u.simpleName = true

instance (r : Registry) : DecidablePred (NamesModels r) :=
  fun _ => inferInstanceAs (Decidable (∀ _ ∈ _, _))

theorem NamesModels.content {a : HostType} (named : NamesModels r t) {rule : Rule}
    (hrule : (Mapping.mk r []).rule t = rule) (ha : a ∈ rule.contents) : NamesModels r a := by
  subst hrule
  have argument : a ∈ t.arguments := Mapping.contents_rule_subset _ t ha
  exact fun u hu => named u (HostType.mem_nodes_of_mem_arguments argument hu)

theorem isDotted_of_atom (named : NamesModels r t)
    (h : (Mapping.mk r []).FallsUnder t (.atom mapped)) : IsDotted mapped.expression.toList := by
  cases h with
  | override known => contradiction
  | model known => exact .single (named t t.mem_nodes_self known.2)
  | date => exact isDotted_moment
  | primitive _ name _ => exact isDotted_of_primitive name

theorem exists_array (e : Expression) (element : Mapped) (h : e.text = element.expression) :
    ∃ e' : Expression, e'.text = element.array.expression ∧ e'.shape = .array e.shape := by
  by_cases spaced : ' ' ∈ element.expression.toList
  · refine ⟨.array (.group e), ?_, rfl⟩
    simp [Expression.text, Mapped.array, spaced, h]
  · refine ⟨.array e, ?_, rfl⟩
    simp [Expression.text, Mapped.array, spaced, h]

theorem exists_expression (named : NamesModels r t) (h : (Mapping.mk r []).map t = .ok mapped) :
    ∃ e : Expression, e.text = mapped.expression ∧ ∀ s, Translates r t s ↔ s = e.shape := by
  induction t using Mapping.map.induct (Mapping.mk r []) generalizing mapped with
  | case1 t atom hrule =>
    rw [Mapping.map_eq, hrule] at h
    cases h
    have dotted := isDotted_of_atom named (Mapping.rule_eq_iff.1 hrule)
    refine ⟨.name ⟨atom.expression, dotted⟩, rfl, fun s => ?_⟩
    rw [translates_iff, hrule]
    rfl
  | case2 t content hrule ih =>
    rw [Mapping.map_eq, hrule] at h
    obtain ⟨e, text, shape⟩ := ih (named.content hrule (by simp [Rule.contents])) h
    refine ⟨e, text, fun s => ?_⟩
    rw [translates_iff, hrule]
    exact shape s
  | case3 t element hrule ih =>
    rw [Mapping.map_eq, hrule] at h
    obtain ⟨inner, hinner, ⟨⟩⟩ := Outcome.bind_eq_ok_iff.1 h
    obtain ⟨e, text, shape⟩ := ih (named.content hrule (by simp [Rule.contents])) hinner
    obtain ⟨e', text', shape'⟩ := exists_array e inner text
    refine ⟨e', text', fun s => ?_⟩
    rw [translates_iff, hrule, Rule.Translates]
    simp [shape, shape']
  | case4 t key value hrule ihKey ihValue =>
    rw [Mapping.map_eq, hrule] at h
    obtain ⟨_, _, h⟩ := Outcome.bind_eq_ok_iff.1 h
    obtain ⟨inner, hinner, ⟨⟩⟩ := Outcome.bind_eq_ok_iff.1 h
    obtain ⟨e, text, shape⟩ := ihValue (named.content hrule (by simp [Rule.contents])) hinner
    refine ⟨.index e, congrArg indexSignature text, fun s => ?_⟩
    rw [translates_iff, hrule, Rule.Translates]
    simp [shape, Expression.shape]
  | case5 t fault hrule =>
    rw [Mapping.map_eq, hrule] at h
    contradiction

/-- Without overrides the expression of a type is read in just one way, and what is read is what the
type stands for. -/
theorem map_translates (named : NamesModels r t) (h : (Mapping.mk r []).map t = .ok mapped) :
    (∃! e : Expression, e.text = mapped.expression) ∧
    ∀ e : Expression, e.text = mapped.expression → ∀ s, Translates r t s ↔ s = e.shape := by
  obtain ⟨e, text, shape⟩ := exists_expression named h
  have unique : ∀ e' : Expression, e'.text = mapped.expression → e' = e :=
    fun e' text' => Expression.text_injective (text'.trans text.symm)
  refine ⟨⟨e, text, unique⟩, fun e' text' => ?_⟩
  rw [unique e' text']
  exact shape

theorem map_translates_pages :
    let r : Registry := ⟨["Line"]⟩
    let line : HostType := { name := "Shop.Line" }
    let optional : HostType := { name := "Nullable", arguments := [line] }
    let lines : HostType := { name := "IEnumerable", arguments := [optional] }
    let key : HostType := { name := "DateTime" }
    let page : HostType := { name := "Dictionary`2", arguments := [key, lines] }
    let t : HostType := { name := "List`1", arguments := [page] }
    NamesModels r t ∧
    ∃ mapped, (Mapping.mk r []).map t = .ok mapped ∧
      mapped.expression = "(\x7b [key: string]: Line[] \x7d)[]" ∧
      Translates r t (.array (.index (.array (.atom "Line")))) := by
  intro r line optional lines key page t
  let m : Mapping := ⟨r, []⟩
  have named : NamesModels r t := by decide +kernel
  let atom : Mapped :=
    { expression := line.simpleName, isModel := true, modelName := some line.simpleName }
  have ofLine : m.rule line = .atom atom := Mapping.rule_eq_iff.2 (.model (by decide +kernel))
  have ofOptional : m.rule optional = .wrapper line :=
    Mapping.rule_eq_iff.2 (.wrapper (by decide +kernel) (by decide +kernel) rfl)
  have ofLines : m.rule lines = .sequence optional :=
    Mapping.rule_eq_iff.2 (.sequence (by decide +kernel) (by decide +kernel) rfl)
  have ofKey : m.rule key = .atom _ :=
    Mapping.rule_eq_iff.2 (.date (by decide +kernel) (by decide +kernel) rfl)
  have ofPage : m.rule page = .dictionary key lines :=
    Mapping.rule_eq_iff.2 (.dictionary (by decide +kernel) (by decide +kernel) rfl)
  have ofAll : m.rule t = .sequence page :=
    Mapping.rule_eq_iff.2 (.sequence (by decide +kernel) (by decide +kernel) rfl)
  have mapped : m.map t = .ok atom.array.indexed.array := by
    simp only [Mapping.map_eq, ofAll, ofPage, ofKey, ofLines, ofOptional, ofLine]
    rfl
  let e : Expression := .array (.group (.index (.array (.name ⟨"Line", .single rfl⟩))))
  obtain ⟨-, read⟩ := map_translates named mapped
  exact ⟨named, _, mapped, by decide +kernel, (read e (by decide +kernel) _).2 rfl⟩

end TypeScript

end ServiceClient

import ServiceClient.Registry

/-!
Type expressions of the client for the types of the host. `rule` names the case that a type falls
under, without a look at the types inside it; `map` follows the cases down.
-/

namespace ServiceClient.TypeScript

structure Mapped where
  expression : String := ""
  isModel : Bool := false
  isModelCollection : Bool := false
  isDate : Bool := false
  isPrimitive : Bool := false
  modelName : Option String := none
  deriving DecidableEq

inductive ArityFault : Type
  | sequence : ArityFault
  | dictionary : ArityFault
  deriving DecidableEq

def ArityFault.message : ArityFault → String
  | .sequence => "sequences need exactly one element type"
  | .dictionary => "dictionaries need a key and a value type"

structure Unmappable where
  typeName : String
  fault : Option ArityFault := none
  deriving DecidableEq

def unmappableMessage (typeName reason : String) : String :=
  let message := s!"No TypeScript mapping for type '{typeName}'"
  if reason = "" then message else message ++ ": " ++ reason

def Unmappable.message (e : Unmappable) : String :=
  unmappableMessage e.typeName ((e.fault.map ArityFault.message).getD "")

def numbers : List String :=
  ["Byte", "SByte", "Int16", "Int32", "Int64", "UInt16", "UInt32", "UInt64", "Single", "Double",
    "Decimal", "byte", "sbyte", "short", "ushort", "int", "uint", "long", "ulong", "float",
    "double", "decimal"]

def booleans : List String := ["Boolean", "bool"]

def strings : List String := ["String", "string", "Char", "char", "Guid", "Uri", "TimeSpan"]

def untyped : List String := ["Object", "object", "dynamic", "JObject", "JToken", "JArray"]

def empties : List String := ["Void", "void", "Task"]

def dates : List String := ["DateTime", "DateTimeOffset"]

def sequences : List String :=
  ["Array", "IEnumerable", "ICollection", "IList", "List", "IReadOnlyList", "IReadOnlyCollection",
    "HashSet", "ISet", "Collection"]

def dictionaries : List String := ["Dictionary", "IDictionary", "IReadOnlyDictionary"]

def wrappers : List String := ["Nullable", "Task", "ValueTask"]

def primitiveExpression? (name : String) : Option String :=
  if name ∈ numbers then some "number"
  else if name ∈ booleans then some "boolean"
  else if name ∈ strings then some "string"
  else if name ∈ untyped then some "any"
  else if name ∈ empties then some "void"
  else none

inductive Rule : Type
  | atom (mapped : Mapped) : Rule
  | wrapper (content : HostType) : Rule
  | sequence (element : HostType) : Rule
  | dictionary (key value : HostType) : Rule
  | unmappable (fault : Option ArityFault) : Rule

structure Mapping where
  registry : Registry := {}
  overrides : List (String × String) := []

namespace Mapping

def override? (m : Mapping) (t : HostType) : Option Rule :=
  (m.overrides.lookup t.simpleName).map fun expression => .atom { expression, isPrimitive := true }

def model? (m : Mapping) (t : HostType) : Option Rule :=
  if m.registry.isModel t then
    some (.atom { expression := t.simpleName, isModel := true, modelName := some t.simpleName })
  else none

def wrapper? (t : HostType) : Option Rule :=
  match t.arguments with
  | [content] => if t.simpleName ∈ wrappers then some (.wrapper content) else none
  | _ => none

def date? (t : HostType) : Option Rule :=
  if t.simpleName ∈ dates ∧ t.arguments = [] then
    some (.atom { expression := "moment.Moment", isDate := true, isPrimitive := true })
  else none

def primitive? (t : HostType) : Option Rule :=
  if t.arguments = [] then
    (primitiveExpression? t.simpleName).map fun expression =>
      .atom { expression, isPrimitive := true }
  else none

def sequence? (t : HostType) : Option Rule :=
  if t.simpleName ∈ sequences then
    match t.arguments with
    | [element] => some (.sequence element)
    | _ => some (.unmappable (some .sequence))
  else none

def dictionary? (t : HostType) : Option Rule :=
  if t.simpleName ∈ dictionaries then
    match t.arguments with
    | [key, value] => some (.dictionary key value)
    | _ => some (.unmappable (some .dictionary))
  else none

/-- The cases in the order in which they are tried. -/
def cases (m : Mapping) : List (HostType → Option Rule) :=
  [m.override?, m.model?, wrapper?, date?, primitive?, sequence?, dictionary?]

def rule (m : Mapping) (t : HostType) : Rule :=
  (m.cases.findSome? (· t)).getD (.unmappable none)

end Mapping

def Rule.contents : Rule → List HostType
  | .atom _ => []
  | .wrapper content => [content]
  | .sequence element => [element]
  | .dictionary key value => [key, value]
  | .unmappable _ => []

/-- The array of an element. An expression that holds a space is put between parentheses. -/
def Mapped.array (element : Mapped) : Mapped :=
  let expression :=
    if ' ' ∈ element.expression.toList then "(" ++ element.expression ++ ")" else element.expression
  { expression := expression ++ "[]"
    isModelCollection := element.isModel
    modelName := if element.isModel then element.modelName else none }

def Mapped.indexed (value : Mapped) : Mapped :=
  { expression := "\x7b [key: string]: " ++ value.expression ++ " \x7d" }

namespace Mapping

theorem contents_subset_of_mem_cases {m : Mapping} {t : HostType} {r : Rule}
    {case : HostType → Option Rule} (hcase : case ∈ m.cases) (h : case t = some r) :
    r.contents ⊆ t.arguments := by
  obtain ⟨name, arguments, isModel⟩ := t
  simp only [cases, List.mem_cons, List.not_mem_nil, or_false] at hcase
  rcases hcase with rfl | rfl | rfl | rfl | rfl | rfl | rfl
  · obtain ⟨_, _, rfl⟩ := Option.map_eq_some_iff.1 h
    simp [Rule.contents]
  · rw [model?] at h
    split at h <;> simp at h
    simp [← h, Rule.contents]
  · rw [wrapper?] at h
    split at h <;> try (split at h)
    all_goals simp_all
    simp [← h, Rule.contents]
  · rw [date?] at h
    split at h <;> simp at h
    simp [← h, Rule.contents]
  · rw [primitive?] at h
    split at h <;> simp at h
    obtain ⟨_, _, rfl⟩ := h
    simp [Rule.contents]
  · rw [sequence?] at h
    split at h <;> try (split at h)
    all_goals simp_all
    all_goals simp [← h, Rule.contents]
  · rw [dictionary?] at h
    split at h <;> try (split at h)
    all_goals simp_all
    all_goals simp [← h, Rule.contents]

theorem contents_rule_subset (m : Mapping) (t : HostType) :
    (m.rule t).contents ⊆ t.arguments := by
  rw [rule]
  cases h : m.cases.findSome? (· t) with
  | none => simp [Rule.contents]
  | some r =>
    obtain ⟨case, hcase, h⟩ := List.exists_of_findSome?_eq_some h
    exact contents_subset_of_mem_cases hcase h

theorem sizeOf_lt_of_mem_contents {m : Mapping} {t a : HostType} (h : a ∈ (m.rule t).contents) :
    sizeOf a < sizeOf t := by
  have := List.sizeOf_lt_of_mem (m.contents_rule_subset t h)
  cases t
  simp at this ⊢
  omega

def map (m : Mapping) (t : HostType) : Except Unmappable Mapped :=
  match _h : m.rule t with
  | .atom mapped => .ok mapped
  | .wrapper content => m.map content
  | .sequence element => do return (← m.map element).array
  | .dictionary key value => do
    let _ ← m.map key
    return (← m.map value).indexed
  | .unmappable fault => .error ⟨t.toNotation, fault⟩
termination_by t
decreasing_by all_goals exact sizeOf_lt_of_mem_contents (m := m) (by simp [_h, Rule.contents])

end Mapping

end ServiceClient.TypeScript

import Mathlib.Data.List.Infix
import ServiceClient.Proofs.TypeScript.Blame
import ServiceClient.Proofs.TypeScript.ResultMapping

namespace ServiceClient.TypeScript

def isOperator (c : Char) : Bool := c == '|' || c == '&'

def isOpening (c : Char) : Bool := c == '(' || c == '[' || c == '{'

def isClosing (c : Char) : Bool := c == ')' || c == ']' || c == '}'

def depthAfter (depth : Nat) (c : Char) : Nat :=
  if isOpening c then depth + 1 else if isClosing c then depth - 1 else depth

def depthThrough (depth : Nat) (cs : List Char) : Nat := cs.foldl depthAfter depth

def operandsFrom (depth : Nat) : List Char → List (List Char)
  | [] => [[]]
  | c :: cs =>
    if depth = 0 ∧ isOperator c then [] :: operandsFrom 0 cs
    else (operandsFrom (depthAfter depth c) cs).modifyHead (c :: ·)

def operands (text : String) : List String := (operandsFrom 0 text.toList).map String.ofList

def IsCompound (text : String) : Prop :=
  ∃ before operator after, text.toList = before ++ operator :: after ∧
    isOperator operator = true ∧ depthThrough 0 before = 0

/-- Whether the brackets of a text belong together, so that all of it is inside of brackets that are
put around it. -/
def IsBalanced (text : String) : Prop :=
  (∀ before ∈ text.toList.inits, 0 < depthThrough 1 before) ∧ depthThrough 1 text.toList = 1

instance : DecidablePred IsBalanced := fun _ => inferInstanceAs (Decidable (_ ∧ _))

section Operands

variable {depth : Nat} {cs : List Char}

theorem operandsFrom_of_no_operator (h : ∀ c ∈ cs, isOperator c = false) :
    operandsFrom depth cs = [cs] := by
  induction cs generalizing depth with
  | nil => rfl
  | cons c cs ih =>
    rw [List.forall_mem_cons] at h
    rw [operandsFrom, if_neg (by simp [h.1]), ih h.2]
    rfl

theorem operandsFrom_append (depth : Nat) (cs : List Char) {suffix : List Char}
    (h : ∀ c ∈ suffix, isOperator c = false) :
    ∃ others last, operandsFrom depth cs = others ++ [last] ∧
      operandsFrom depth (cs ++ suffix) = others ++ [last ++ suffix] := by
  induction cs generalizing depth with
  | nil => exact ⟨[], [], rfl, operandsFrom_of_no_operator h⟩
  | cons c cs ih =>
    rw [List.cons_append, operandsFrom, operandsFrom]
    split
    · obtain ⟨others, last, whole, more⟩ := ih 0
      exact ⟨[] :: others, last, by rw [whole]; rfl, by rw [more]; rfl⟩
    · obtain ⟨others, last, whole, more⟩ := ih (depthAfter depth c)
      rw [whole, more]
      cases others with
      | nil => exact ⟨[], c :: last, rfl, rfl⟩
      | cons first others => exact ⟨(c :: first) :: others, last, rfl, rfl⟩

theorem operandsFrom_append_of_inside (rest : List Char)
    (inside : ∀ before, before <+: cs → 0 < depthThrough depth before) :
    operandsFrom depth (cs ++ rest) =
      (operandsFrom (depthThrough depth cs) rest).modifyHead (cs ++ ·) := by
  induction cs generalizing depth with
  | nil => exact (congrFun List.modifyHead_id _).symm
  | cons c cs ih =>
    -- The text begins inside of brackets, so an operator there leaves nothing apart.
    have here : 0 < depth := inside [] List.nil_prefix
    have others : ∀ before, before <+: cs → 0 < depthThrough (depthAfter depth c) before :=
      fun before h => inside (c :: before) (List.cons_prefix_cons.2 ⟨rfl, h⟩)
    rw [List.cons_append, operandsFrom, if_neg (by omega), ih others, List.modifyHead_modifyHead]
    rfl

theorem operandsFrom_ne_nil : operandsFrom depth cs ≠ [] := by
  induction cs generalizing depth with
  | nil => exact List.cons_ne_nil _ _
  | cons c cs ih =>
    rw [operandsFrom]
    split
    · exact List.cons_ne_nil _ _
    · rw [Ne, List.modifyHead_eq_nil_iff]
      exact ih

theorem one_lt_length_operandsFrom {before after : List Char} {operator : Char}
    (h : isOperator operator = true) (outside : depthThrough depth before = 0) :
    1 < (operandsFrom depth (before ++ operator :: after)).length := by
  induction before generalizing depth with
  | nil =>
    have bare : depth = 0 := outside
    rw [List.nil_append, operandsFrom, if_pos ⟨bare, h⟩, List.length_cons]
    exact Nat.lt_add_of_pos_left (List.length_pos_iff.2 operandsFrom_ne_nil)
  | cons c before ih =>
    rw [List.cons_append, operandsFrom]
    split
    · rw [List.length_cons]
      exact Nat.lt_add_of_pos_left (List.length_pos_iff.2 operandsFrom_ne_nil)
    · rw [List.length_modifyHead]
      exact ih outside

end Operands

variable {text : String}

theorem IsCompound.one_lt_length (h : IsCompound text) : 1 < (operands text).length := by
  obtain ⟨before, operator, after, whole, kind, outside⟩ := h
  rw [operands, List.length_map, whole]
  exact one_lt_length_operandsFrom kind outside

theorem operands_append_brackets (text : String) :
    ∃ others last, operands text = others ++ [last] ∧
      operands (text ++ "[]") = others ++ [last ++ "[]"] := by
  have bare : ∀ c ∈ "[]".toList, isOperator c = false := by simp [isOperator]
  obtain ⟨others, last, whole, more⟩ := operandsFrom_append 0 text.toList bare
  refine ⟨others.map String.ofList, String.ofList last, ?_, ?_⟩
  · rw [operands, whole, List.map_append, List.map_singleton]
  · rw [operands, String.toList_append, more, List.map_append, List.map_singleton,
      String.ofList_append, String.ofList_toList]

theorem IsBalanced.operands_group (h : IsBalanced text) :
    operands ("(" ++ text ++ ")[]") = ["(" ++ text ++ ")[]"] := by
  have inside : ∀ before, before <+: text.toList → 0 < depthThrough 1 before :=
    fun before hbefore => h.1 before ((List.mem_inits _ _).2 hbefore)
  have one : operandsFrom 0 ('(' :: (text.toList ++ ")[]".toList)) =
      ['(' :: (text.toList ++ ")[]".toList)] := by
    rw [operandsFrom, if_neg (by decide), show depthAfter 0 '(' = 1 from rfl,
      operandsFrom_append_of_inside _ inside, h.2]
    rfl
  have whole : ("(" ++ text ++ ")[]").toList = '(' :: (text.toList ++ ")[]".toList) := by
    rw [String.toList_append, String.toList_append]
    rfl
  rw [operands, whole, one, ← whole, List.map_singleton, String.ofList_toList]

theorem expression_array_of_space {e : Mapped} (h : ' ' ∈ e.expression.toList) :
    e.array.expression = "(" ++ e.expression ++ ")[]" := by
  rw [Mapped.array, if_pos h, String.append_assoc]
  rfl

theorem expression_array_of_no_space {e : Mapped} (h : ' ' ∉ e.expression.toList) :
    e.array.expression = e.expression ++ "[]" := by
  rw [Mapped.array, if_neg h]

namespace Mapping

theorem map_of_override {m : Mapping} {t : HostType} {expression : String}
    (known : m.overrides.lookup t.simpleName = some expression) :
    m.map t = .ok { expression, isPrimitive := true } := by
  rw [map_eq, rule_of_override known]

/-- The array of a compound expression has it between parentheses, and so reaches all operands, just
if the expression has a space. Without one it is an array of the last operand alone. -/
theorem mapAfter_sequence_of_compound {m : Mapping} {earlier : List HostType} {t element : HostType}
    {e : Mapped} (sequence : m.IsSequenceOf t element)
    (maps : m.mapAfter earlier element = .ok e) (compound : IsCompound e.expression) :
    ∃ a, m.mapAfter earlier t = .ok a ∧
      (a.expression = "(" ++ e.expression ++ ")[]" ↔ ' ' ∈ e.expression.toList) ∧
      (IsBalanced e.expression →
        (operands a.expression = [a.expression] ↔ ' ' ∈ e.expression.toList)) ∧
      (' ' ∉ e.expression.toList → ∃ others last, others ≠ [] ∧
        operands e.expression = others ++ [last] ∧
        operands a.expression = others ++ [last ++ "[]"]) := by
  rw [mapAfter_eq] at maps
  have mapped : m.mapAfter earlier t = .ok e.array := by
    rw [mapAfter_eq, map_of_isSequenceOf sequence, maps]
    rfl
  refine ⟨e.array, mapped, ?_⟩
  obtain ⟨others, last, whole, more⟩ := operands_append_brackets e.expression
  have several : others ≠ [] := by
    rintro rfl
    have := compound.one_lt_length
    rw [whole] at this
    contradiction
  by_cases space : ' ' ∈ e.expression.toList
  · rw [expression_array_of_space space]
    exact ⟨iff_of_true rfl space, fun balanced => iff_of_true balanced.operands_group space,
      fun none => absurd space none⟩
  · rw [expression_array_of_no_space space, more]
    refine ⟨iff_of_false (fun same => ?_) space, fun _ => iff_of_false (fun same => ?_) space,
      fun _ => ⟨others, last, several, whole, rfl⟩⟩
    · have longer := congrArg (·.toList.length) same
      simp at longer
    · have shorter := congrArg List.length same
      rw [List.length_append, List.length_singleton, List.length_singleton] at shorter
      exact several (List.length_eq_zero_iff.1 (Nat.succ.inj shorter))

theorem mapAfter_sequence_of_compound_money :
    let m : Mapping := { overrides := [("Money", "number | string")] }
    let element : HostType := { name := "Nullable", arguments := [{ name := "Money" }] }
    let t : HostType := { name := "List", arguments := [element] }
    ∃ a, m.mapAfter [t] t = .ok a ∧ a.expression = "(number | string)[]" ∧
      operands a.expression = [a.expression] := by
  intro m element t
  have wrapper : m.IsWrapperOf element { name := "Money" } := by decide +kernel
  have maps : m.mapAfter [t] element =
      .ok { expression := "number | string", isPrimitive := true } := by
    rw [mapAfter_eq, map_of_isWrapperOf wrapper]
    exact map_of_override (by decide +kernel)
  have compound : IsCompound "number | string" :=
    ⟨"number ".toList, '|', " string".toList, by decide +kernel, rfl, rfl⟩
  obtain ⟨a, mapped, group, whole, -⟩ :=
    mapAfter_sequence_of_compound (t := t) (by decide +kernel) maps compound
  have space : ' ' ∈ "number | string".toList := by decide +kernel
  exact ⟨a, mapped, group.2 space, (whole (by decide +kernel)).2 space⟩

/-- A union that is written without spaces: its array is one of the last operand. -/
theorem map_sequence_not_grouped :
    let m : Mapping := { overrides := [("Money", "number|string")] }
    let t : HostType := { name := "List", arguments := [{ name := "Money" }] }
    IsCompound "number|string" ∧ ∃ a, m.map t = .ok a ∧ a.expression = "number|string[]" ∧
      operands a.expression = ["number", "string[]"] := by
  intro m t
  have sequence : m.IsSequenceOf t { name := "Money" } := by decide +kernel
  have money : m.map { name := "Money" } =
      .ok { expression := "number|string", isPrimitive := true } :=
    map_of_override (by decide +kernel)
  have mapped : m.map t = _ := map_of_isSequenceOf sequence
  rw [money] at mapped
  exact ⟨⟨"number".toList, '|', "string".toList, by decide +kernel, rfl, rfl⟩, _, mapped,
    by decide +kernel, by decide +kernel⟩

end Mapping

end ServiceClient.TypeScript

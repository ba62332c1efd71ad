import ServiceClient.TypeScript.Lexical

namespace ServiceClient.TypeScript

def escapes : List (Char × Char) :=
  [('b', '\x08'), ('t', '\t'), ('n', '\n'), ('v', '\x0b'), ('f', '\x0c'), ('r', '\r')]

def isLineEnd (c : Char) : Bool :=
  c == '\n' || c == '\r' || c == '\u2028' || c == '\u2029'

def unescaped? (c : Char) : Option Char :=
  if c.isDigit || c == 'x' || c == 'u' || isLineEnd c then none
  else some ((escapes.lookup c).getD c)

def readBody : List Char → Option (List Char × List Char)
  | [] => none
  | '\'' :: rest => some ([], rest)
  | '\\' :: c :: rest =>
    (unescaped? c).bind fun d => (readBody rest).map fun r => (d :: r.1, r.2)
  | c :: rest =>
    if c = '\\' ∨ c = '\n' ∨ c = '\r' then none
    else (readBody rest).map fun r => (c :: r.1, r.2)

def readLiteral : List Char → Option (List Char × List Char)
  | '\'' :: rest => readBody rest
  | _ => none

def quoted (text : String) : String := "'" ++ escaped text ++ "'"

def HasLineBreak (text : String) : Prop := '\n' ∈ text.toList ∨ '\r' ∈ text.toList

instance : DecidablePred HasLineBreak := fun _ => inferInstanceAs (Decidable (_ ∨ _))

theorem mem_escaped_iff {c : Char} (h : c ≠ '\\') {text : String} :
    c ∈ (escaped text).toList ↔ c ∈ text.toList := by
  have own (d : Char) : c ∈ escapedChar d ↔ c = d := by
    rw [escapedChar]
    split <;> simp [h]
  simp [escaped, own]

theorem readBody_escapedChar (c : Char) (cs : List Char) :
    readBody (escapedChar c ++ cs) =
      if c = '\n' ∨ c = '\r' then none else (readBody cs).map fun r => (c :: r.1, r.2) := by
  rw [escapedChar]
  by_cases marked : c = '\\' ∨ c = '\''
  · -- It is no line break, and is read along with the backslash that it has got.
    rw [if_pos marked]
    rcases marked with rfl | rfl <;> rfl
  · rw [if_neg marked]
    rw [not_or] at marked
    simp [readBody, marked.1, marked.2]

theorem readBody_escaped (cs rest : List Char) :
    readBody (cs.flatMap escapedChar ++ '\'' :: rest) =
      if '\n' ∈ cs ∨ '\r' ∈ cs then none else some (cs, rest) := by
  induction cs with
  | nil => rfl
  | cons c cs ih =>
    rw [List.flatMap_cons, List.append_assoc, readBody_escapedChar, ih]
    by_cases first : c = '\n' ∨ c = '\r'
    · rw [if_pos first, if_pos]
      rcases first with rfl | rfl <;> simp
    · rw [if_neg first]
      rw [not_or] at first
      simp only [List.mem_cons, Ne.symm first.1, Ne.symm first.2, false_or]
      split <;> rfl

theorem readLiteral_quoted (text rest : String) :
    readLiteral (quoted text ++ rest).toList =
      if HasLineBreak text then none else some (text.toList, rest.toList) := by
  have whole : (quoted text ++ rest).toList =
      '\'' :: (text.toList.flatMap escapedChar ++ '\'' :: rest.toList) := by
    simp [quoted, escaped]
  rw [whole]
  exact readBody_escaped text.toList rest.toList

end ServiceClient.TypeScript

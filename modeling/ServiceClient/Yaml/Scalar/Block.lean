import ServiceClient.Yaml.Cursor

namespace ServiceClient.Yaml.Block

inductive Chomping : Type
  | strip : Chomping
  | clip : Chomping
  | keep : Chomping
  deriving DecidableEq

structure Header where
  chomping : Chomping := .clip
  increment : Option Nat := none

def chomping? : Option Char → Option Chomping
  | some '+' => some .keep
  | some '-' => some .strip
  | _ => none

def increment? (c : Cursor) : Except Fault (Option Nat) :=
  match c.peek with
  | some ch =>
    if !ch.isDigit then .ok none
    else if ch = '0' then .error .malformed
    else .ok (some (ch.toNat - '0'.toNat))
  | none => .ok none

def indicators (c : Cursor) : Except Fault (Header × Cursor) := do
  match chomping? c.peek with
  | some chomping =>
    let c := c.next
    match ← increment? c with
    | some n => return (⟨chomping, some n⟩, c.next)
    | none => return (⟨chomping, none⟩, c)
  | none =>
    match ← increment? c with
    | some n =>
      let c := c.next
      match chomping? c.peek with
      | some chomping => return (⟨chomping, some n⟩, c.next)
      | none => return ({ increment := some n }, c)
    | none => return ({}, c)

def header (c : Cursor) : Except Fault (Header × Cursor) := do
  let (h, c) ← indicators c
  if !endsPart c.peek then throw .malformed
  let c := c.skipSpaces.skipComment
  if !endsLine c.peek then throw .malformed
  match c.lineBreak? with
  | some (_, c) => return (h, c)
  | none => return (h, c)

def leadingBreaks : Nat → Cursor → List Char → Nat → List Char × Nat × Cursor
  | 0, c, found, deepest => (found, deepest, c)
  | fuel + 1, c, found, deepest =>
    if c.sees (· == ' ') then
      let c := c.next
      leadingBreaks fuel c found (max deepest c.column)
    else match c.lineBreak? with
      | some (ch, c) => leadingBreaks fuel c (found ++ [ch]) deepest
      | none => (found, deepest, c)

def indentTo (column : Nat) (c : Cursor) : Cursor :=
  c.forward (min (column - c.column) (c.rest.takeWhile (· == ' ')).length)

def breaks (column : Nat) : Nat → Cursor → List Char → List Char × Cursor
  | 0, c, found => (found, c)
  | fuel + 1, c, found =>
    let c := indentTo column c
    match c.lineBreak? with
    | some (ch, c) => breaks column fuel c (found ++ [ch])
    | none => (found, c)

def isBlank (c : Char) : Bool := c == ' ' || c == '\t'

def lines (folded : Bool) (column : Nat) :
    Nat → Cursor → (before : List Char) → List Char × List Char × List Char × Cursor
  | 0, c, before => ([], [], before, c)
  | fuel + 1, c, before =>
    if c.column ≠ column ∨ c.rest = [] then ([], [], before, c)
    else
      let (line, afterLine) := c.span (!isBreak ·)
      let (ending, afterBreak) := match afterLine.lineBreak? with
        | some (ch, c) => ([ch], c)
        | none => ([], afterLine)
      let (after, c') := breaks column (afterBreak.left + 1) afterBreak []
      if c'.column = column ∧ c'.rest ≠ [] then
        -- A folded line feed between two lines that begin with no blank is a space.
        let joint :=
          if folded ∧ ending = ['\n'] ∧ !c.sees isBlank ∧ !c'.sees isBlank then
            if after = [] then [' '] else []
          else ending
        let (text, rest) := lines folded column fuel c' after
        (before ++ line ++ joint ++ text, rest)
      else (before ++ line, ending, after, c')

def scan (folded : Bool) (indent : Int) (c : Cursor) : Except Fault (List Char × Cursor) := do
  let (h, c) ← header c.next
  let least := (max 1 (indent + 1)).toNat
  let (column, before, c) := match h.increment with
    | some n =>
      let column := least + n - 1
      let (before, c) := breaks column (c.left + 1) c []
      (column, before, c)
    | none =>
      let (before, deepest, c) := leadingBreaks (c.left + 1) c [] 0
      (max least deepest, before, c)
  let (text, ending, after, c) := lines folded column (c.left + 1) c before
  let tail := match h.chomping with
    | .strip => []
    | .clip => ending
    | .keep => ending ++ after
  return (text ++ tail, c)

end ServiceClient.Yaml.Block

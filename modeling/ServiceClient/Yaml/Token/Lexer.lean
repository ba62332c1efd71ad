import ServiceClient.Yaml.Portion
import ServiceClient.Yaml.Token.Tag

/-!
Splitting the text of a document into tokens. Whether a word is a key shows only at the colon
after it, so the place of a possible key is kept, one for each level of brackets, and the token
for the key is put in there later.
-/

namespace ServiceClient.Yaml

/-- The place of a token that may turn out to be a key. A required one has to. -/
structure PossibleKey where
  token : Nat
  required : Bool
  left : Nat
  line : Nat
  column : Nat

/-- What has been read so far. `outer` holds the possible keys outside the innermost brackets,
one for each pair of brackets that is open. -/
structure Lexer where
  cursor : Cursor
  tokens : Array Token := #[]
  indent : Int := -1
  indents : List Int := []
  allowsKey : Bool := true
  possibleKey : Option PossibleKey := none
  outer : List (Option PossibleKey) := []

namespace Lexer

def inFlow (l : Lexer) : Bool := l.outer ≠ []

def push (l : Lexer) (t : Token) : Lexer := { l with tokens := l.tokens.push t }

def insertAt (l : Lexer) (i : Nat) (t : Token) : Lexer :=
  { l with tokens := l.tokens.insertIdxIfInBounds i t }

def isStale (l : Lexer) (k : PossibleKey) : Bool :=
  k.line ≠ l.cursor.line || 1024 < k.left - l.cursor.left

def refreshed (l : Lexer) : Option PossibleKey → Except Fault (Option PossibleKey)
  | none => .ok none
  | some k =>
    if !l.isStale k then .ok (some k)
    else if k.required then .error .malformed
    else .ok none

def dropStale (l : Lexer) : Except Fault Lexer := do
  return { l with possibleKey := ← l.refreshed l.possibleKey, outer := ← l.outer.mapM l.refreshed }

def dropKey (l : Lexer) : Except Fault Lexer :=
  match l.possibleKey with
  | some k => if k.required then .error .malformed else .ok { l with possibleKey := none }
  | none => .ok l

def noteKey (l : Lexer) : Except Fault Lexer := do
  if !l.allowsKey then return l
  let required := !l.inFlow && l.indent = l.cursor.column
  let l ← l.dropKey
  let c := l.cursor
  return { l with possibleKey := some ⟨l.tokens.size, required, c.left, c.line, c.column⟩ }

def unwind (l : Lexer) (column : Int) : Lexer :=
  if l.inFlow then l else go l.indents l
where
  go : List Int → Lexer → Lexer
    | outer :: indents, l =>
      if column < l.indent then go indents { l.push .blockEnd with indent := outer, indents }
      else l
    | [], l => l

def openBlock (l : Lexer) (column : Nat) (i : Nat) (t : Token) : Lexer :=
  if l.indent < column then
    { l.insertAt i t with indent := column, indents := l.indent :: l.indents }
  else l

def take (l : Lexer) (t : Token) : Lexer := { l.push t with cursor := l.cursor.next }

def skipBlanks : Nat → Lexer → Lexer
  | 0, l => l
  | fuel + 1, l =>
    let c := l.cursor.skipSpaces.skipComment
    match c.lineBreak? with
    -- Outside brackets a key may follow on the new line.
    | some (_, c) => skipBlanks fuel { l with cursor := c, allowsKey := l.allowsKey || !l.inFlow }
    | none => { l with cursor := c }

def leaveBlocks (l : Lexer) : Except Fault Lexer := do
  return { ← (l.unwind (-1)).dropKey with allowsKey := false }

def marker (l : Lexer) (t : Token) : Except Fault Lexer := do
  let l ← l.leaveBlocks
  return { l.push t with cursor := l.cursor.forward 3 }

def directive (l : Lexer) : Except Fault Lexer := do
  let l ← l.leaveBlocks
  let (t, c) ← scanDirective l.cursor
  return { l.push t with cursor := c }

def openBracket (l : Lexer) (t : Token) : Except Fault Lexer := do
  let l ← l.noteKey
  return { l.take t with allowsKey := true, possibleKey := none, outer := l.possibleKey :: l.outer }

def closeBracket (l : Lexer) (t : Token) : Except Fault Lexer := do
  let l ← l.dropKey
  match l.outer with
  | k :: outer => return { l.take t with allowsKey := false, possibleKey := k, outer }
  | [] => throw .malformed

def flowEntry (l : Lexer) : Except Fault Lexer := do
  return { ← l.dropKey with allowsKey := true }.take .flowEntry

def openEntry (l : Lexer) (collection : Token) : Except Fault Lexer :=
  if l.inFlow then .ok l
  else if !l.allowsKey then .error .malformed
  else .ok (l.openBlock l.cursor.column l.tokens.size collection)

def blockEntry (l : Lexer) : Except Fault Lexer := do
  let l ← l.openEntry .blockSequenceStart
  return { ← l.dropKey with allowsKey := true }.take .blockEntry

def key (l : Lexer) : Except Fault Lexer := do
  let l ← l.openEntry .blockMappingStart
  return { ← l.dropKey with allowsKey := !l.inFlow }.take .key

def value (l : Lexer) : Except Fault Lexer := do
  match l.possibleKey with
  | some k =>
    let l := { l with possibleKey := none, allowsKey := false }.insertAt k.token .key
    let l := if l.inFlow then l else l.openBlock k.column k.token .blockMappingStart
    return l.take .value
  | none =>
    let l ← l.openEntry .blockMappingStart
    return { ← l.dropKey with allowsKey := !l.inFlow }.take .value

def simple (l : Lexer) (scan : Cursor → Except Fault (Token × Cursor)) : Except Fault Lexer := do
  let l ← l.noteKey
  let (t, c) ← scan l.cursor
  return { l.push t with cursor := c, allowsKey := false }

def name (l : Lexer) (make : String → Token) : Except Fault Lexer :=
  l.simple fun c => do
    let (name, c) ← scanName c
    return (make name, c)

def quoted (l : Lexer) (double : Bool) : Except Fault Lexer :=
  l.simple fun c => do
    let (text, c) ← Quoted.scan double c
    return (.scalar (.ofList text) false, c)

def block (l : Lexer) (folded : Bool) : Except Fault Lexer := do
  let l ← l.dropKey
  let (text, c) ← Block.scan folded l.indent l.cursor
  return { l.push (.scalar (.ofList text) false) with cursor := c, allowsKey := true }

def plain (l : Lexer) : Except Fault Lexer := do
  let l ← l.noteKey
  let (text, crossed, c) := Plain.scan l.inFlow (l.indent + 1) l.cursor
  return { l.push (.scalar (.ofList text) true) with cursor := c, allowsKey := crossed }

def indicators : List Char := "-?:,[]\x7b\x7d#&*!|>'\"%@`".toList

def beginsPlain (inFlow : Bool) (ch : Char) (following : Option Char) : Bool :=
  !(endsWord (some ch) || indicators.contains ch)
    || (!endsWord following && (ch == '-' || (!inFlow && (ch == '?' || ch == ':'))))

def token (l : Lexer) (ch : Char) : Except Fault Lexer :=
  let c := l.cursor
  let spaced := endsWord (c.peekAt 1)
  if ch = '%' ∧ c.column = 0 then l.directive
  else if ch = '-' ∧ c.column = 0 ∧ c.atMarker '-' then l.marker .documentStart
  else if ch = '.' ∧ c.column = 0 ∧ c.atMarker '.' then l.marker .documentEnd
  else if ch = '[' then l.openBracket .flowSequenceStart
  else if ch = '{' then l.openBracket .flowMappingStart
  else if ch = ']' then l.closeBracket .flowSequenceEnd
  else if ch = '}' then l.closeBracket .flowMappingEnd
  else if ch = ',' then l.flowEntry
  else if ch = '-' ∧ spaced then l.blockEntry
  else if ch = '?' ∧ (l.inFlow ∨ spaced) then l.key
  else if ch = ':' ∧ (l.inFlow ∨ spaced) then l.value
  else if ch = '*' then l.name .alias
  else if ch = '&' then l.name .anchor
  else if ch = '!' then l.simple scanTag
  else if ch = '|' ∧ !l.inFlow then l.block false
  else if ch = '>' ∧ !l.inFlow then l.block true
  else if ch = '\'' then l.quoted false
  else if ch = '"' then l.quoted true
  else if beginsPlain l.inFlow ch (c.peekAt 1) then l.plain
  else .error .malformed

def settled (l : Lexer) : Nat :=
  -- In front of these tokens no key can be put any more, so they come before a later fault.
  (l.possibleKey :: l.outer).foldl
    (fun n k => match k with
      | some k => if l.isStale k then n else min n k.token
      | none => n)
    l.tokens.size

def step (l : Lexer) : Except Fault (Lexer × Bool) := do
  let l := l.skipBlanks (l.cursor.left + 1)
  let l ← l.dropStale
  let l := l.unwind l.cursor.column
  match l.cursor.peek with
  | some ch => return (← l.token ch, true)
  | none => return (← (l.unwind (-1)).dropKey, false)

/-- Reads all tokens. Each takes a character, so these bound their number. Before a fault only
settled tokens count. Where a fault stands at the end of the text, it comes before a token that
reaches the end. -/
def run (atEnd : Option Fault) : Nat → Lexer → Scanned
  | 0, l => ⟨l.tokens.toList, some .malformed⟩
  | fuel + 1, l =>
    match l.step with
    | .error fault => ⟨l.tokens.toList.take l.settled, some fault⟩
    | .ok (next, more) =>
      if atEnd.isSome && next.cursor.rest.isEmpty then ⟨l.tokens.toList.take l.settled, atEnd⟩
      else if more then run atEnd fuel next
      else ⟨next.tokens.toList, none⟩

end Lexer

def dropMark : List Char → List Char
  | '\uFEFF' :: cs => cs
  | cs => cs

def Token.scan (r : Readable) : Scanned :=
  let text := dropMark r.text
  Lexer.run r.fault (text.length + 2) { cursor := { rest := text } }

end ServiceClient.Yaml

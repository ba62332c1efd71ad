import ServiceClient.Yaml.Cursor

namespace ServiceClient.Yaml.Plain

def isFlowStop (c : Char) : Bool := c == ',' || c == '[' || c == ']' || c == '{' || c == '}'

def endsKey (inFlow : Bool) (next : Option Char) : Bool :=
  endsWord next || (inFlow && next.any isFlowStop)

def word (inFlow : Bool) : List Char → List Char
  | [] => []
  | c :: cs =>
    if endsWord (some c) || (c == ':' && endsKey inFlow cs.head?)
        || (inFlow && (isFlowStop c || c == '?')) then []
    else c :: word inFlow cs

/-- What lies between two words: the text that it counts as, or nothing before a marker. -/
structure Gap where
  text : Option (List Char)
  crossesLine : Bool
  cursor : Cursor

def breaks : Nat → Cursor → List Char → Option (List Char) × Cursor
  | 0, c, found => (some found, c)
  | fuel + 1, c, found =>
    if c.sees (· == ' ') then breaks fuel c.next found
    else match c.lineBreak? with
      | some (ch, c) => if c.atDocumentMarker then (none, c) else breaks fuel c (found ++ [ch])
      | none => (some found, c)

def gap (c : Cursor) : Gap :=
  let (spaces, c) := c.span (· == ' ')
  match c.lineBreak? with
  | none => ⟨some spaces, false, c⟩
  | some (first, c) =>
    if c.atDocumentMarker then ⟨none, true, c⟩
    else
      let (more, c) := breaks (c.left + 1) c []
      let folded (more : List Char) :=
        if first ≠ '\n' then first :: more else if more = [] then [' '] else more
      ⟨more.map folded, true, c⟩

def scanWords (inFlow : Bool) (indent : Int) :
    Nat → Cursor → (gapBefore : List Char) → (crossed : Bool) → List Char × Bool × Cursor
  | 0, c, _, crossed => ([], crossed, c)
  | fuel + 1, c, gapBefore, crossed =>
    let run := word inFlow c.rest
    if c.sees (· == '#') ∨ run = [] then ([], crossed, c)
    else
      let g := gap (c.forward run.length)
      match g.text with
      | some (ch :: chs) =>
        if g.cursor.sees (· == '#') ∨ (!inFlow ∧ g.cursor.column < indent) then
          (gapBefore ++ run, g.crossesLine, g.cursor)
        else
          let (text, crossed, c) := scanWords inFlow indent fuel g.cursor (ch :: chs) g.crossesLine
          (gapBefore ++ run ++ text, crossed, c)
      | _ => (gapBefore ++ run, g.crossesLine, g.cursor)

def scan (inFlow : Bool) (indent : Int) (c : Cursor) : List Char × Bool × Cursor :=
  scanWords inFlow indent (c.left + 1) c [] false

end ServiceClient.Yaml.Plain

import ServiceClient.Yaml.Cursor

namespace ServiceClient.Yaml.Quoted

def escape? (c : Char) : Option Char :=
  [('0', '\x00'), ('a', '\x07'), ('b', '\x08'), ('t', '\t'), ('\t', '\t'), ('n', '\n'),
    ('v', '\x0B'), ('f', '\x0C'), ('r', '\r'), ('e', '\x1B'), (' ', ' '), ('"', '"'),
    ('\\', '\\'), ('/', '/'), ('N', '\x85'), ('_', '\xA0'), ('L', '\u2028'),
    ('P', '\u2029')].lookup c

def codeWidth? (c : Char) : Option Nat := [('x', 2), ('u', 4), ('U', 8)].lookup c

def breaks : Nat → Cursor → List Char → Except Fault (List Char × Cursor)
  | 0, c, found => .ok (found, c)
  | fuel + 1, c, found =>
    if c.atDocumentMarker then .error .malformed
    else
      let c := c.skip fun ch => ch == ' ' || ch == '\t'
      match c.lineBreak? with
      | some (ch, c) => breaks fuel c (found ++ [ch])
      | none => .ok (found, c)

def codeEnd : Nat := 0x80000000

/-- A character by its code point. No text holds a surrogate, so one is refused. -/
def codePoint (width : Nat) (c : Cursor) : Except Fault (Char × Cursor) :=
  let digits := c.rest.take width
  if digits.length < width ∨ ¬ digits.all isHexDigit then .error .malformed
  else
    let n := hexNumber digits
    if codeEnd ≤ n then .error .tooLarge
    else if 0x110000 ≤ n then .error .outOfRange
    else if ¬n.isValidChar then .error .malformed
    else .ok (Char.ofNat n, c.forward width)

def escaped (c : Cursor) : Except Fault (List Char × Cursor) :=
  match c.peek with
  | none => .error .malformed
  | some ch =>
    match escape? ch, codeWidth? ch, c.lineBreak? with
    | some e, _, _ => .ok ([e], c.next)
    | none, some width, _ => do
      let (e, c) ← codePoint width c.next
      return ([e], c)
    | none, none, some (_, c) => breaks (c.left + 1) c []
    | none, none, none => .error .malformed

def blanks (c : Cursor) : Except Fault (List Char × Cursor) :=
  let (spaces, c) := c.span fun ch => ch == ' ' || ch == '\t'
  match c.peek, c.lineBreak? with
  | none, _ => .error .malformed
  | some _, none => .ok (spaces, c)
  | some _, some (first, c) => do
    let (more, c) ← breaks (c.left + 1) c []
    return (if first ≠ '\n' then first :: more else if more = [] then [' '] else more, c)

def scanBody (double : Bool) : Nat → Cursor → Except Fault (List Char × Cursor)
  | 0, _ => .error .malformed
  | fuel + 1, c =>
    let goOn (piece : List Char) (c : Cursor) : Except Fault (List Char × Cursor) := do
      let (text, c) ← scanBody double fuel c
      return (piece ++ text, c)
    match c.peek with
    | none => .error .malformed
    | some '\'' =>
      if double then goOn ['\''] c.next
      else if c.peekAt 1 = some '\'' then goOn ['\''] (c.forward 2)
      else .ok ([], c.next)
    | some '"' => if double then .ok ([], c.next) else goOn ['"'] c.next
    | some '\\' => do
      if double then
        let (piece, c) ← escaped c.next
        goOn piece c
      else goOn ['\\'] c.next
    | some ch => do
      if endsWord (some ch) then
        let (piece, c) ← blanks c
        goOn piece c
      else goOn [ch] c.next

def scan (double : Bool) (c : Cursor) : Except Fault (List Char × Cursor) :=
  scanBody double (c.left + 1) c.next

end ServiceClient.Yaml.Quoted

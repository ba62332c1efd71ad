import ServiceClient.Yaml.Token.Basic

namespace ServiceClient.Yaml

def isUriChar (c : Char) : Bool :=
  c.isAlphanum || "-;/?:@&=+$,_.!~*'()[]".toList.contains c

def uriBytes : Nat → Cursor → List UInt8 → Except Fault (List UInt8 × Cursor)
  | 0, c, found => .ok (found, c)
  | fuel + 1, c, found =>
    match c.rest with
    | '%' :: a :: b :: _ =>
      if isHexDigit a && isHexDigit b then
        uriBytes fuel (c.forward 3) (found ++ [UInt8.ofNat (hexNumber [a, b])])
      else .error .malformed
    | '%' :: _ => .error .malformed
    | _ => .ok (found, c)

def uriChars : Nat → Cursor → Except Fault (List Char × Cursor)
  | 0, c => .ok ([], c)
  | fuel + 1, c => do
    if c.sees (· == '%') then
      let (bytes, c) ← uriBytes (c.left + 1) c []
      match String.fromUTF8? ⟨bytes.toArray⟩ with
      | some piece =>
        let (more, c) ← uriChars fuel c
        return (piece.toList ++ more, c)
      | none => throw .malformed
    else match c.span isUriChar with
      | ([], c) => return ([], c)
      | (run, c) =>
        let (more, c) ← uriChars fuel c
        return (run ++ more, c)

def scanUri (c : Cursor) : Except Fault (String × Cursor) := do
  match ← uriChars (c.left + 1) c with
  | ([], _) => throw .malformed
  | (cs, c) => return (.ofList cs, c)

def scanHandle (c : Cursor) : Except Fault (String × Cursor) := do
  if !c.sees (· == '!') then throw .malformed
  let c := c.next
  if c.sees (· == ' ') then return ("!", c)
  let (word, c) := c.span isWordChar
  if !c.sees (· == '!') then throw .malformed
  return (.ofList ('!' :: word ++ ['!']), c.next)

def hasHandle (cs : List Char) : Bool :=
  match cs.dropWhile fun c => c != '!' && !endsPart (some c) with
  | '!' :: _ => true
  | _ => false

def scanTag (c : Cursor) : Except Fault (Token × Cursor) := do
  let (token, c) ← match c.peekAt 1 with
    | some '<' => do
      let (uri, c) ← scanUri (c.forward 2)
      if !c.sees (· == '>') then throw .malformed
      pure (Token.tag none uri, c.next)
    | following => do
      if endsWord following then pure (Token.tag none "!", c.next)
      else if hasHandle (c.rest.drop 1) then do
        let (handle, c) ← scanHandle c
        let (suffix, c) ← scanUri c
        pure (Token.tag (some handle) suffix, c)
      else do
        let (suffix, c) ← scanUri c.next
        pure (Token.tag (some "!") suffix, c)
  if endsPart c.peek then return (token, c) else throw .malformed

def scanName (c : Cursor) : Except Fault (String × Cursor) := do
  let (name, c) := c.next.span isWordChar
  if name = [] then throw .malformed
  if endsWord c.peek || c.sees ("?:,]\x7d%@`".toList.contains ·) then return (.ofList name, c)
  else throw .malformed

def scanNumber (c : Cursor) : Except Fault (Nat × Cursor) := do
  match c.span Char.isDigit with
  | ([], _) => throw .malformed
  | (digits, c) => return ((String.ofList digits).toNat?.getD 0, c)

def scanVersion (c : Cursor) : Except Fault (Token × Cursor) := do
  let (major, c) ← scanNumber c.skipSpaces
  if !c.sees (· == '.') then throw .malformed
  let (minor, c) ← scanNumber c.next
  if endsPart c.peek then return (.version major minor, c) else throw .malformed

def scanTagHandle (c : Cursor) : Except Fault (Token × Cursor) := do
  let (handle, c) ← scanHandle c.skipSpaces
  if !c.sees (· == ' ') then throw .malformed
  let (start, c) ← scanUri c.skipSpaces
  if endsPart c.peek then return (.tagHandle handle start, c) else throw .malformed

def scanDirective (c : Cursor) : Except Fault (Token × Cursor) := do
  let (name, c) := c.next.span isWordChar
  if name = [] || !endsPart c.peek then throw .malformed
  let (token, c) ←
    if name = "YAML".toList then scanVersion c
    else if name = "TAG".toList then scanTagHandle c
    else pure (Token.otherDirective, c.skip (!isBreak ·))
  let c := c.skipSpaces.skipComment
  if !endsLine c.peek then throw .malformed
  return (token, (c.lineBreak?.map (·.2)).getD c)

end ServiceClient.Yaml

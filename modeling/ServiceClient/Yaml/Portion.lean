import ServiceClient.Yaml.Cursor

namespace ServiceClient.Yaml

structure Readable where
  text : List Char
  fault : Option Fault := none

namespace Readable

def bytesAtOnce : Nat := 8192

def charsAtOnce : Nat := 4096

def isAdmitted (c : Char) : Bool :=
  c == '\t' || c == '\n' || c == '\r' || ('\x20' ≤ c && c ≤ '\x7E') || c == '\x85'
    || ('\xA0' ≤ c && c ≤ '\uFFFD') || 0x10000 ≤ c.toNat

def joinLines : List Char → List Char
  | [] => []
  | '\r' :: '\n' :: cs => '\n' :: joinLines cs
  | '\r' :: cs => '\n' :: joinLines cs
  | c :: cs => c :: joinLines cs

def before (place : Nat) (text : List Char) (fault : Fault) : Readable :=
  let portions := place / charsAtOnce
  { text := if portions < 2 then [] else text.take (portions * charsAtOnce), fault := some fault }

def textOf? (bytes : ByteArray) : Option String :=
  [0, 1, 2, 3].findSome? fun cut => String.fromUTF8? (bytes.extract 0 (bytes.size - cut))

def decoded (bytes : ByteArray) : Nat → String
  | 0 => ""
  | n + 1 => match textOf? (bytes.extract 0 ((n + 1) * bytesAtOnce)) with
    | some text => text
    | none => decoded bytes n

def admitted (r : Readable) : Readable :=
  let start := r.text.takeWhile isAdmitted
  if start.length < r.text.length then before start.length r.text .malformed else r

def ofText (text : String) : Readable := admitted { text := joinLines text.toList }

def ofBytes (bytes : ByteArray) : Readable :=
  match String.fromUTF8? bytes with
  | some text => ofText text
  | none =>
    let cs := joinLines (decoded bytes (bytes.size / bytesAtOnce)).toList
    admitted (before cs.length cs .undecodable)

end Readable

end ServiceClient.Yaml

import ServiceClient.Console
import ServiceClient.Text.Blank

/-!
The marks of styles in what is shown. A mark stands in square brackets and opens a style, or closes
one after a slash; backslashes before a bracket take away its meaning. Styles are told apart by
their names.
-/

namespace ServiceClient

namespace Markup

inductive Piece : Type
  | letter (c : Char) : Piece
  | mark (text : List Char) : Piece

def startsMark (c : Char) : Bool := ('a' ≤ c && c ≤ 'z') || c == '#' || c == '/' || c == '@'

def mark? : List Char → Option (List Char)
  | '[' :: c :: cs =>
    if startsMark c then
      match cs.span fun d => d != '[' && d != ']' with
      | (inner, ']' :: _) => some (c :: inner)
      | _ => none
    else none
  | _ => none

def letters (cs : List Char) : List Piece := cs.map .letter

/-- The pieces of a text after some backslashes. `skipped` characters more belong to a mark that
began before. -/
def piecesAfter : (backslashes skipped : Nat) → List Char → List Piece
  | backslashes, _, [] => letters (.replicate backslashes '\\')
  | backslashes, skipped + 1, _ :: cs => piecesAfter backslashes skipped cs
  | backslashes, 0, c :: cs =>
    if c = '\\' then piecesAfter (backslashes + 1) 0 cs
    else match mark? (c :: cs) with
      | some text =>
        letters (.replicate (backslashes / 2) '\\')
          ++ (if backslashes % 2 = 0 then [.mark text] else letters ('[' :: text ++ [']']))
          ++ piecesAfter 0 (text.length + 1) cs
      | none =>
        letters (.replicate (if c = '[' then backslashes - 1 else backslashes) '\\')
          ++ .letter c :: piecesAfter 0 0 cs

def pieces (text : String) : List Piece := piecesAfter 0 0 text.toList

def styleName (cs : List Char) : List Char := (Text.strip Text.isBlank cs).map Char.toLower

def open? (styles : List (List Char)) (mark : List Char) : Option (List (List Char)) :=
  match mark.takeWhile (· ≠ '='), styles with
  | '/' :: name, styles =>
    match styleName name, styles with
    | [], [] => none
    | [], _ :: outer => some outer
    | style, styles => if style ∈ styles then some (styles.erase style) else none
  | name, styles => some (styleName name :: styles)

def isClosed : List (List Char) → List Piece → Bool
  | _, [] => true
  | styles, .letter _ :: ps => isClosed styles ps
  | styles, .mark text :: ps => match open? styles text with
    | some styles => isClosed styles ps
    | none => false

def isWellFormed (text : String) : Bool := isClosed [] (pieces text)

def plain (text : String) : String :=
  .ofList ((pieces text).filterMap fun
    | .letter c => some c
    | .mark _ => none)

end Markup

mutual

def Tree.labels : Tree → List String
  | .branch label children => label :: Tree.allLabels children

def Tree.allLabels : List Tree → List String
  | [] => []
  | t :: ts => t.labels ++ Tree.allLabels ts

end

mutual

def Tree.lines (indent : String) : Tree → List String
  | .branch label children =>
    (indent ++ Markup.plain label) :: Tree.allLines (indent ++ "  ") children

def Tree.allLines (indent : String) : List Tree → List String
  | [] => []
  | t :: ts => t.lines indent ++ Tree.allLines indent ts

end

namespace Printed

def texts : Printed → List String
  | panel body title subtitle => title :: body :: subtitle.toList
  | table title headers rows => title :: headers ++ rows.flatten
  | tree t => t.labels
  | line text => [text]
  | echo _ => []

def lines : Printed → List String
  | panel body title subtitle => [title, Markup.plain body] ++ subtitle.toList
  | table title headers rows =>
    title :: (headers :: rows).map fun row => " | ".intercalate (row.map Markup.plain)
  | tree t => t.lines ""
  | line text => [Markup.plain text]
  | echo text => [text]

end Printed

/-- The console that reads the marks of styles. The parameters of handlers it takes as they come. -/
def Console.markup : Console := ⟨fun thing => thing.texts.all Markup.isWellFormed⟩

end ServiceClient

import ServiceClient.Text.Blank
import ServiceClient.Text.Case

/-!
Names of members. A name is a run of words parted by underscores, hyphens and blanks. Joined, its
words begin with capitals; as a member it begins with a small letter, and so does a leading
acronym up to the capital that begins the next word.
-/

namespace ServiceClient.Naming

open Text

def isSeparator (c : Char) : Bool := c == '_' || c == '-' || isBlank c

def beginsInWord : List Char → Bool
  | [] => false
  | c :: _ => !isSeparator c

def words : List Char → List (List Char)
  | [] => []
  | c :: cs =>
    if isSeparator c then words cs
    else match beginsInWord cs, words cs with
      | true, w :: ws => (c :: w) :: ws
      | _, ws => [c] :: ws

def capitalized : List Char → List Char
  | [] => []
  | c :: cs => upperChar c ++ cs

def joined (cs : List Char) : List Char := (words cs).flatMap capitalized

/-- Puts a leading run of the capitals A to Z into lower case. Of a longer run that does not end
the text, the last capital begins the next word and stays. -/
def lowered (cs : List Char) : List Char :=
  let run := cs.takeWhile Char.isUpper
  let rest := cs.dropWhile Char.isUpper
  if rest = [] ∨ run.length ≤ 1 then run.map Char.toLower ++ rest
  else run.dropLast.map Char.toLower ++ run.drop (run.length - 1) ++ rest

def pascalize (text : String) : String := .ofList (joined text.toList)

def camelize (text : String) : String := .ofList (lowered (joined text.toList))

end ServiceClient.Naming

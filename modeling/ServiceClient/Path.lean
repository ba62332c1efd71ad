namespace ServiceClient

/-- The slashes that a path keeps at its beginning, and its parts. -/
structure Path where
  slashes : Nat := 0
  parts : List String := []
  deriving DecidableEq

namespace Path

def split : List Char → List (List Char)
  | [] => [[]]
  | c :: cs =>
    match c, split cs with
    | '/', parts => [] :: parts
    | c, part :: parts => (c :: part) :: parts
    | c, [] => [[c]]

def leadingSlashes (cs : List Char) : Nat :=
  match (cs.takeWhile (· == '/')).length with
  | 0 => 0
  | 2 => 2
  | _ => 1

def parse (text : String) : Path where
  slashes := leadingSlashes text.toList
  parts := ((split text.toList).map String.ofList).filter fun part => part ≠ "" ∧ part ≠ "."

def render (p : Path) : String :=
  if p.slashes = 0 ∧ p.parts = [] then "."
  else .ofList (List.replicate p.slashes '/') ++ "/".intercalate p.parts

instance : ToString Path := ⟨render⟩

def isAbsolute (p : Path) : Bool := p.slashes ≠ 0

def name (p : Path) : String := p.parts.getLast?.getD ""

def parent (p : Path) : Path := { p with parts := p.parts.dropLast }

def hasNull (p : Path) : Bool := p.parts.any fun part => '\x00' ∈ part.toList

def child (p : Path) (name : String) : Path := { p with parts := p.parts ++ [name] }

end Path

end ServiceClient

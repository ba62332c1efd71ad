import ServiceClient.HostType.Basic
import ServiceClient.HostType.Token

/-!
Reading the host notation of types. A type is a name, then generic arguments between angle
brackets, then question marks and pairs of square brackets, each of which wraps what stands
before it.
-/

namespace ServiceClient.HostType

inductive Fault : Type
  | empty : Fault
  | stray (position : Nat) : Fault
  | unfinished : Fault
  | nameExpected (found : Token) : Fault
  | unclosed : Fault
  | trailing (found : Token) : Fault
  deriving DecidableEq

structure NotationError where
  source : String
  fault : Fault
  deriving DecidableEq

def NotationError.message (e : NotationError) : String :=
  match e.fault with
  | .empty => "Type expression must not be empty"
  | .stray position => s!"Invalid type expression '{e.source}' at position {position}"
  | .unfinished => s!"Unexpected end of type expression '{e.source}'"
  | .nameExpected found => s!"Expected a type name in '{e.source}', found '{found.text}'"
  | .unclosed => s!"Unclosed generic arguments in '{e.source}'"
  | .trailing found => s!"Unexpected '{found.text}' in type expression '{e.source}'"

def wrapped (t : HostType) : List Token → HostType × List Token
  | .optional :: rest => wrapped { name := "Nullable", arguments := [t] } rest
  | .array :: rest => wrapped { name := "Array", arguments := [t] } rest
  | rest => (t, rest)

mutual

def readType : Nat → List Token → Except Fault (HostType × List Token)
  | depth + 1, .name n :: .opening :: rest => do
    let (first, rest) ← readType depth rest
    let (more, rest) ← readMore depth rest
    match rest with
    | .closing :: rest => return wrapped { name := n, arguments := first :: more } rest
    | _ => throw .unclosed
  | _ + 1, .name n :: rest => return wrapped { name := n } rest
  | _ + 1, t :: _ => throw (.nameExpected t)
  | _, _ => throw .unfinished

def readMore : Nat → List Token → Except Fault (List HostType × List Token)
  | depth + 1, .comma :: rest => do
    let (first, rest) ← readType depth rest
    let (more, rest) ← readMore depth rest
    return (first :: more, rest)
  | _, rest => return ([], rest)

end

/-- Reads all tokens as one type. Each level of nesting takes a token, so their number bounds
the depth. -/
def ofTokens (tokens : List Token) : Except Fault HostType := do
  match ← readType (tokens.length + 1) tokens with
  | (t, []) => return t
  | (_, found :: _) => throw (.trailing found)

def parse (source : String) : Except NotationError HostType :=
  Except.mapError (⟨source, ·⟩) do
    match ← (Token.scan source).mapError .stray with
    | [] => throw .empty
    | tokens => ofTokens tokens

end ServiceClient.HostType

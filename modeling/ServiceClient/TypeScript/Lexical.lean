namespace ServiceClient.TypeScript

def isIdentifierStart (c : Char) : Bool := c.isAlpha || c == '_' || c == '$'

def isIdentifierChar (c : Char) : Bool := c.isAlphanum || c == '_' || c == '$'

def isIdentifierChars : List Char → Bool
  | [] => false
  | c :: cs => isIdentifierStart c && cs.all isIdentifierChar

def isIdentifier (text : String) : Bool := isIdentifierChars text.toList

def isIdentifierLine (text : String) : Bool :=
  isIdentifier text || text.toList.getLast? = some '\n' && isIdentifierChars text.toList.dropLast

def escapedChar (c : Char) : List Char :=
  if c = '\\' ∨ c = '\'' then ['\\', c] else [c]

def escaped (text : String) : String := .ofList (text.toList.flatMap escapedChar)

end ServiceClient.TypeScript

import ServiceClient.Descriptor
import ServiceClient.Naming
import ServiceClient.TypeScript.Mapping

/-!
Addresses of requests. The path names the controller and the method; the parameters make up the
query, or, for a request that posts, the first of them is the body and the others are left over.
-/

namespace ServiceClient

def isSlash (c : Char) : Bool := c == '/'

def normalizeBasePath (text : String) : String :=
  .ofList (Text.stripEnd isSlash (Text.strip Text.isBlank text.toList))

/-- Joins parts by single slashes. Parts of slashes only are left out; slashes at the beginning
stay on the first part alone. -/
def joinParts (parts : List (List Char)) : List Char :=
  match parts.filter fun part => part.any (!isSlash ·) with
  | [] => []
  | first :: rest =>
    Text.stripEnd isSlash first ++ rest.flatMap fun part => '/' :: Text.strip isSlash part

def combineUri (parts : List String) : String := .ofList (joinParts (parts.map String.toList))

structure Url where
  path : String
  query : String := ""
  body : Option String := none
  excess : List String := []
  deriving DecidableEq

namespace Url

def basePathReference : String := "$\x7bthis.apiRelativePath\x7d"

def render (u : Url) : String := if u.query = "" then u.path else u.path ++ "?" ++ u.query

def placeholder (expression : String) : String := "$\x7b" ++ expression ++ "\x7d"

/-- What a parameter is written as in a query. Dates become texts, and one of a nullable type may
be missing. -/
def queryValue (p : Parameter) (isDate : Bool) : String :=
  if !isDate then placeholder p.name
  else if p.type.simpleName = "Nullable" then
    placeholder (p.name ++ " ? " ++ p.name ++ ".toISOString() : ''")
  else placeholder (p.name ++ ".toISOString()")

variable {m : Type → Type} [Monad m]

def queryPair (map : HostType → m TypeScript.Mapped) (p : Parameter) : m String := do
  return p.name ++ "=" ++ queryValue p (← map p.type).isDate

def build (map : HostType → m TypeScript.Mapped) (base resource method : String) (verb : Verb)
    (parameters : List Parameter) : m Url := do
  let path := combineUri [base, Naming.camelize resource, Naming.camelize method]
  if verb = .post then
    let names := parameters.map (·.name)
    return { path, body := names.head?, excess := names.tail }
  else
    return { path, query := "&".intercalate (← parameters.mapM (queryPair map)) }

end Url

end ServiceClient

import ServiceClient.Text.Blank
import ServiceClient.Text.Case
import ServiceClient.Text.Quoted

namespace ServiceClient

inductive Verb : Type
  | get : Verb
  | put : Verb
  | post : Verb
  | delete : Verb
  deriving DecidableEq, Repr

namespace Verb

def all : List Verb := [.get, .put, .post, .delete]

def name : Verb → String
  | .get => "GET"
  | .put => "PUT"
  | .post => "POST"
  | .delete => "DELETE"

def clientMethod : Verb → String
  | .get => "get"
  | .put => "put"
  | .post => "post"
  | .delete => "delete"

def ofName? (text : String) : Option Verb := all.find? (·.name = text)

structure Unsupported where
  written : String
  deriving DecidableEq

def Unsupported.message (e : Unsupported) : String :=
  s!"Unsupported HTTP verb annotation '{e.written}'. Supported: " ++
    Text.quotedList (all.map name)

def dropHttp (cs : List Char) : List Char :=
  if (cs.take 4).map Char.toLower = ['h', 't', 't', 'p'] ∧ 4 < cs.length then cs.drop 4 else cs

def normalized (written : String) : String :=
  let text := Text.trim written
  let text := (Text.dropSuffix? "Attribute" text).getD text
  Text.upper (.ofList (dropHttp text.toList))

def parse (written : String) : Except Unsupported Verb :=
  match ofName? (normalized written) with
  | some verb => .ok verb
  | none => .error ⟨written⟩

def beginnings : List (String × Verb) :=
  [("Get", .get), ("Put", .put), ("Post", .post), ("Update", .post), ("Delete", .delete)]

def suggestedBy (methodName : String) : Option Verb :=
  (beginnings.find? fun b => Text.startsWith b.1 methodName).map (·.2)

end Verb

end ServiceClient

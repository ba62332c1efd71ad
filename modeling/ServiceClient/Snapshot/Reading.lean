import ServiceClient.Descriptor.Reading
import ServiceClient.Document
import ServiceClient.Path
import ServiceClient.Snapshot.Basic
import ServiceClient.Text.Quoted

namespace ServiceClient.Snapshot

open Validation

def repeated (names : List String) : List String :=
  Text.sort (names.filter fun name => 1 < names.count name).eraseDups

def distinct (what : String) (name : α → String) (items : List α) : Checked (List α) :=
  match repeated (items.map name) with
  | [] => .accepted items
  | names => .reject (.refused (s!"Duplicate {what} names found: " ++ Text.quotedList names))

def fields : List String := ["models", "controllers"]

def ofValue (v : Value) : Checked Snapshot :=
  (entries "DescriptorSnapshot" v).andThen fun es =>
    closed fields es (Snapshot.mk
      <$> fieldOr es "models" [] (fun v => (list text v).andThen (distinct "model" id))
      <*> fieldOr es "controllers" []
        (fun v => (list Controller.ofValue v).andThen (distinct "controller" Controller.name)))

inductive Error : Type
  | invalid (source : String) (issues : List Issue) : Error
  | unreadable (path : Path) : Error
  | malformed (path : Path) : Error
  | wrongShape (path : Path) : Error
  | suffixMissing (path : Path) (suffix : String) (controllers : List String) : Error
  deriving DecidableEq

def Error.message : Error → String
  -- What the reader of the file or the check has to say would follow the colon and is left out.
  | .invalid source _ => s!"Invalid descriptor snapshot {source}: "
  | .unreadable path => s!"Failed to read snapshot {path}: "
  | .malformed path => s!"Failed to parse snapshot {path}: "
  | .wrongShape path => s!"Invalid snapshot format in {path}"
  | .suffixMissing path suffix controllers =>
    s!"Controllers in {path} must end with '{suffix}': " ++ Text.quotedList controllers

def ofSource (source : String) (v : Value) : Except Error Snapshot :=
  ((ofValue v).map markModels).toExcept.mapError (.invalid source)

def checkSuffix (path : Path) (suffix : String) (s : Snapshot) : Except Error Snapshot :=
  match (s.controllers.map (·.name)).filter (!Text.endsWith suffix ·) with
  | [] => .ok s
  | names => .error (.suffixMissing path suffix (Text.sort names))

def load (path : Path) (suffix : String) (content : Except FileError ByteArray) :
    Except (Document.Failure Error) Snapshot :=
  Document.load (.unreadable path) (.malformed path) content fun v =>
    if v.entries?.isSome then (ofSource path.render v).bind (checkSuffix path suffix)
    else .error (.wrongShape path)

end ServiceClient.Snapshot

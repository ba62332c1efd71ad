import ServiceClient.Document
import ServiceClient.Settings.Basic
import ServiceClient.Validation.Reader

/-!
Reading settings. A property that is stated wins over the surroundings, and these over the
default. Options of the command line win over a file, of which only what differs from the
defaults counts as stated.
-/

namespace ServiceClient.Settings

open Validation

def fields : List String :=
  ["base_path", "output_dir", "module_name", "controller_suffix", "model_import_path",
    "duplicate_policy", "type_overrides"]

def ofEntries (entries : List (Value × Value)) : Checked Settings :=
  closed fields entries (Settings.mk
    <$> fieldOr entries "base_path" "" (fun v => (text v).map Text.trim)
    <*> fieldOr entries "output_dir" {} (fun v => (path v).map Path.parse)
    <*> fieldOr entries "module_name" "DataService" identifier
    <*> fieldOr entries "controller_suffix" "Controller" text
    <*> fieldOr entries "model_import_path" "." nonEmptyText
    <*> fieldOr entries "duplicate_policy" .strict
      (choice DuplicatePolicy.ofName? (.notLiteral (DuplicatePolicy.all.map DuplicatePolicy.name)))
    <*> fieldOr entries "type_overrides" [] textMapping)

def supply (name : String) (value : Option String) (entries : List (Value × Value)) :
    List (Value × Value) :=
  match Value.get? name entries, value with
  | none, some s => entries ++ [(.text name, .text s)]
  | _, _ => entries

def supplied (env : Environment) (entries : List (Value × Value)) : List (Value × Value) :=
  supply "output_dir" env.outputDir (supply "base_path" env.basePath entries)

inductive Error : Type
  | invalid (issues : List Issue) : Error
  | unreadable (path : Path) : Error
  | malformed (path : Path) : Error
  | wrongShape (path : Path) : Error
  deriving DecidableEq

def Error.message : Error → String
  -- What the reader of the file or the check has to say would follow the colon and is left out.
  | .invalid _ => "Invalid generator configuration: "
  | .unreadable path => s!"Failed to read config {path}: "
  | .malformed path => s!"Failed to parse config {path}: "
  | .wrongShape path => s!"Invalid configuration format in {path}"

def ofProperties (env : Environment) (entries : List (Value × Value)) : Except Error Settings :=
  (ofEntries (supplied env entries)).toExcept.mapError .invalid

def load (env : Environment) (path : Path) (content : Except FileError ByteArray) :
    Except (Document.Failure Error) Settings :=
  Document.load (.unreadable path) (.malformed path) content fun v =>
    match v, v.entries? with
    | .null, _ => ofProperties env []
    | _, some entries => ofProperties env entries
    | _, none => .error (.wrongShape path)

def stated [DecidableEq α] (name : String) (value default : α) (write : α → Value) :
    List (Value × Value) :=
  if value = default then [] else [(.text name, write value)]

def properties (s : Settings) : List (Value × Value) :=
  let default : Settings := {}
  stated "base_path" s.basePath default.basePath .text
    ++ stated "output_dir" s.outputDir default.outputDir (.text ·.render)
    ++ stated "module_name" s.moduleName default.moduleName .text
    ++ stated "controller_suffix" s.controllerSuffix default.controllerSuffix .text
    ++ stated "model_import_path" s.modelImportPath default.modelImportPath .text
    ++ stated "duplicate_policy" s.duplicatePolicy default.duplicatePolicy (.text ·.name)
    ++ stated "type_overrides" s.typeOverrides default.typeOverrides
      (fun overrides => .mapping (overrides.map fun o => (.text o.1, .text o.2)))

structure Options where
  basePath : Option String := none
  outputDir : Option Path := none
  lenientDuplicates : Bool := false

def put (name : String) (value : Option String) (entries : List (Value × Value)) :
    List (Value × Value) :=
  match value with
  | some s => Value.insert (.text name) (.text s) entries
  | none => entries

def Options.over (o : Options) (entries : List (Value × Value)) : List (Value × Value) :=
  put "duplicate_policy" (if o.lenientDuplicates then some "lenient" else none)
    (put "output_dir" (o.outputDir.map Path.render) (put "base_path" o.basePath entries))

def build (env : Environment) (file : Option Settings) (options : Options) :
    Except Error Settings :=
  ofProperties env (options.over ((file.map properties).getD []))

end ServiceClient.Settings

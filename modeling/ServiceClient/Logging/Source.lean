import ServiceClient.Disk
import ServiceClient.Document

namespace ServiceClient.Logging

def standardName : String := "logging.yaml"

def standardText : String :=
  "version: 1\ndisable_existing_loggers: false\n\n"
    ++ "formatters:\n  rich:\n    format: \"%(message)s\"\n    datefmt: \"[%X]\"\n  detailed:\n"
    ++ "    format: \"%(asctime)s - %(name)s - %(levelname)s - %(message)s\"\n"
    ++ "    datefmt: \"%Y-%m-%d %H:%M:%S\"\n\n"
    ++ "handlers:\n  console:\n    class: rich.logging.RichHandler\n    level: INFO\n"
    ++ "    formatter: rich\n    rich_tracebacks: true\n    show_path: false\n\n"
    ++ "loggers:\n  typescripter:\n    level: INFO\n    handlers: [console]\n"
    ++ "    propagate: false\n\n"
    ++ "root:\n  level: WARNING\n  handlers: [console]\n"

def shipped : Disk := Disk.empty.putFile { parts := [standardName] } standardText.toUTF8 |>.1

def environments : List (String × String) :=
  [("dev", "dev"), ("test", "test"), ("prod", "prod"), ("development", "dev"),
    ("production", "prod")]

def given (text : Option String) : Option String := text.filter (· ≠ "")

def wantedName (name environment mode : Option String) : String :=
  match given name, given environment with
  | some name, _ => name ++ ".yaml"
  | none, some environment => "logging-" ++ environment ++ ".yaml"
  | none, none =>
    let mode := String.ofList ((mode.getD "").toList.map Char.toLower)
    match environments.lookup mode with
    | some short => "logging-" ++ short ++ ".yaml"
    | none => standardName

/-- The name of the configuration that is used: that of the wanted one if it is shipped. A name
that is too long for any file is an error. -/
def usedName (name environment mode : Option String) : Except FileError String :=
  let path := Path.parse (wantedName name environment mode)
  match shipped.locate path with
  | .ok _ => .ok path.name
  | .error .nameTooLong => .error .nameTooLong
  | .error _ => .ok standardName

inductive SourceError : Type
  | unreadable (path : Path) : SourceError
  | malformed (path : Path) : SourceError
  | wrongShape (path : Path) : SourceError
  deriving DecidableEq

/-- The message. What a reader of files or documents has to say would follow a colon and is left
out. -/
def SourceError.message : SourceError → String
  | .unreadable path => s!"Failed to read config file {path}: "
  | .malformed path => s!"Failed to parse YAML config {path}: "
  | .wrongShape path => s!"Invalid configuration format in {path}"

def load (path : Path) (content : Except FileError ByteArray) :
    Except (Document.Failure SourceError) (List (Value × Value)) :=
  Document.load (.unreadable path) (.malformed path) content fun v =>
    v.entries?.elim (.error (.wrongShape path)) .ok

end ServiceClient.Logging

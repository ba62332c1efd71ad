import ServiceClient.Logging.Layout
import ServiceClient.Logging.Level
import ServiceClient.Text.Numeral

/-!
References in a configuration. A text may stand for a part of a library, by its full name, or for
another place of the configuration, by the way to it. Where entries have been used, objects have
taken their place.
-/

namespace ServiceClient.Logging

inductive Setting : Type
  | plain (v : Value) : Setting
  | object (name : String) : Setting
  deriving Inhabited

/-- Why a setting cannot be used. Most such troubles stop the setup alike. -/
inductive Trouble : Type
  | refused : Trouble
  | outOfRange : Trouble
  | endless : Trouble
  | unfinished : Trouble
  | mismatch : Trouble
  deriving DecidableEq

structure Configuration where
  entries : List (Value × Value)
  objects : List (String × List Value) := []

def Configuration.isMade (c : Configuration) (place : String) (key : Value) : Bool :=
  ((c.objects.lookup place).getD []).any (·.sameKey key)

def Configuration.made (c : Configuration) (place : String) (keys : List Value) : Configuration :=
  { c with objects := (place, (c.objects.lookup place).getD [] ++ keys) :: c.objects }

def handlerClasses : List String :=
  ["logging.Handler", "logging.StreamHandler", "logging.NullHandler", "logging.FileHandler",
    "logging.handlers.BaseRotatingHandler", "logging.handlers.RotatingFileHandler",
    "logging.handlers.TimedRotatingFileHandler", "logging.handlers.WatchedFileHandler",
    "logging.handlers.SocketHandler", "logging.handlers.DatagramHandler",
    "logging.handlers.SysLogHandler", "logging.handlers.NTEventLogHandler",
    "logging.handlers.SMTPHandler", "logging.handlers.BufferingHandler",
    "logging.handlers.MemoryHandler", "logging.handlers.HTTPHandler",
    "logging.handlers.QueueHandler", "rich.logging.RichHandler"]

def otherObjects : List String :=
  ["sys", "sys.stdout", "sys.stderr", "sys.stdin", "sys.__stdout__", "sys.__stderr__",
    "sys.__stdin__", "sys.argv", "sys.path", "sys.modules", "sys.exit", "sys.version_info", "os",
    "os.path", "os.environ", "io", "io.StringIO", "io.BytesIO", "time", "datetime", "string",
    "socket", "queue", "queue.Queue", "threading", "collections", "logging", "logging.handlers",
    "logging.config", "rich", "rich.logging", "rich.console", "rich.console.Console"]

def otherValues : List (String × Value) :=
  [("sys.maxsize", .int 9223372036854775807), ("sys.maxunicode", .int 1114111),
    ("sys.platform", .text "linux"), ("sys.byteorder", .text "little"), ("os.sep", .text "/"),
    ("os.devnull", .text "/dev/null"), ("os.name", .text "posix"), ("os.curdir", .text "."),
    ("os.linesep", .text "\n"), ("socket.SOCK_STREAM", .int 1), ("socket.SOCK_DGRAM", .int 2),
    ("logging.handlers.DEFAULT_TCP_LOGGING_PORT", .int 9020),
    ("logging.handlers.DEFAULT_UDP_LOGGING_PORT", .int 9021),
    ("logging.handlers.DEFAULT_HTTP_LOGGING_PORT", .int 9022),
    ("logging.handlers.DEFAULT_SOAP_LOGGING_PORT", .int 9023),
    ("logging.handlers.SYSLOG_UDP_PORT", .int 514), ("logging.handlers.SYSLOG_TCP_PORT", .int 514),
    ("logging.handlers.SysLogHandler.LOG_USER", .int 1),
    ("logging.handlers.SysLogHandler.LOG_DAEMON", .int 3)]

def part? (name : String) : Option Setting :=
  match levelNumber? name with
  | some n => some (.plain (.int n))
  | none =>
    if name ∈ switches then some (.plain (.bool true))
    else if name = layoutName then some (.plain (.text "%(levelname)s:%(name)s:%(message)s"))
    else if name ∈ partNames then some (.object ("logging." ++ name))
    else none

def named? (name : String) : Option Setting :=
  if name ∈ handlerClasses ++ otherObjects then some (.object name)
  else if let some v := otherValues.lookup name then some (.plain v)
  else if Text.startsWith "logging." name then part? (.ofList (name.toList.drop 8))
  else none

def reference? (kind text : String) : Option (List Char) :=
  let start := (kind ++ "://").toList
  let cs := text.toList.drop start.length
  let cs := if cs.getLast? = some '\n' then cs.dropLast else cs
  if start.isPrefixOf text.toList ∧ '\n' ∉ cs then some cs else none

def word? (cs : List Char) : Option (String × List Char) :=
  let cs := cs.dropWhile Text.isBlank
  match cs.takeWhile Text.isWordChar with
  | [] => none
  | word => some (.ofList word, (cs.drop word.length).dropWhile Text.isBlank)

inductive WayStep : Type
  | name (name : String) : WayStep
  | index (n : Nat) (text : String) : WayStep

def WayStep.ofIndex (word : String) : WayStep :=
  if word.toList.all Text.isDigit then
    .index ((Text.Numeral.int? 10 word.toList).getD 0).toNat word
  else .name word

def waySteps : Nat → List Char → Option (List WayStep)
  | _, [] => some []
  | 0, _ => none
  | fuel + 1, '.' :: cs => do
    let (word, cs) ← word? cs
    return .name word :: (← waySteps fuel cs)
  | fuel + 1, '[' :: cs => do
    match ← word? cs with
    | (word, ']' :: cs) => return .ofIndex word :: (← waySteps fuel (cs.dropWhile Text.isBlank))
    | _ => none
  | _, _ => none

def way? (cs : List Char) : Option (String × List WayStep) := do
  let (word, cs) ← word? cs
  return (word, ← waySteps (cs.length + 1) cs)

def stepInto (v : Value) (s : WayStep) : Except Trouble Value :=
  match s, v.opened with
  | .name name, .mapping entries => (Value.get? name entries).elim (.error .refused) .ok
  | .index n _, .mapping entries => (Value.find? (.int n) entries).elim (.error .refused) .ok
  | .index n _, .list items => (items[n]?).elim (.error .outOfRange) .ok
  | .index n _, .text s =>
    (s.toList[n]?).elim (.error .outOfRange) fun c => .ok (.text (.ofList [c]))
  | .index n _, .bytes data => (data[n]?).elim (.error .outOfRange) fun b => .ok (.int b.toNat)
  | _, _ => .error .refused

def maxReferences : Nat := 300

mutual

def Configuration.followed (c : Configuration) : Nat → Value → Except Trouble Setting
  | 0, _ => .error .endless
  | fuel + 1, .text s =>
    match reference? "ext" s, reference? "cfg" s with
    | some name, _ => (named? (.ofList name)).elim (.error .refused) .ok
    | _, some way => match way? way with
      | some (word, steps) => match Value.get? word c.entries with
        | some v => c.along fuel [.text word] (c.followed fuel v) steps
        | none => .error .refused
      | none => .error .refused
    | none, none => .ok (.plain (.text s))
  | _, v => .ok (.plain v)

def Configuration.along (c : Configuration) (fuel : Nat) (gone : List Value)
    (here : Except Trouble Setting) : List WayStep → Except Trouble Setting
  | [] => here
  | s :: steps => do
    let key : Value := match s with
      | .name name => .text name
      | .index n _ => .int n
    match gone, ← here with
    | _, .object _ => throw .refused
    | [.text place], .plain v =>
      if c.isMade place key then c.along fuel (key :: gone) (.ok (.object place)) steps
      else c.along fuel (key :: gone) ((stepInto v s).bind (c.followed fuel)) steps
    | _, .plain v => c.along fuel (key :: gone) ((stepInto v s).bind (c.followed fuel)) steps

end

def Configuration.setting (c : Configuration) (v : Value) : Except Trouble Setting :=
  c.followed maxReferences v

def isGiven : Value → Bool
  | .null => false
  | .bool b => b
  | .int n => n ≠ 0
  | .number x => !x.isZero
  | .text s => s ≠ ""
  | .bytes data => !data.isEmpty
  | .list items | .set items => !items.isEmpty
  | .mapping entries => !entries.isEmpty
  | .moment _ | .knot .. | .again _ => true

def Setting.isGiven : Setting → Bool
  | plain v => Logging.isGiven v
  | object _ => true

def Setting.isNull : Setting → Bool
  | plain .null => true
  | _ => false

def Configuration.get (c : Configuration) (name : String) (entries : List (Value × Value)) :
    Except Trouble Setting :=
  match Value.get? name entries with
  | some v => c.setting v
  | none => .ok (.plain .null)

end ServiceClient.Logging

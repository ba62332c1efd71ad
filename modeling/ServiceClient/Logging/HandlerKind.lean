import ServiceClient.Logging.Line
import ServiceClient.Logging.Reference

namespace ServiceClient.Logging

abbrev Options := List (String × Setting)

namespace Options

def get (o : Options) (name : String) (default : Value := .null) : Setting :=
  (o.lookup name).getD (.plain default)

def value (o : Options) (name : String) (default : Value := .null) : Except Trouble Value :=
  match o.get name default with
  | .plain v => .ok v
  | .object _ => .error .refused

def valueOr (o : Options) (name : String) (default : Value := .null) : Value :=
  match o.get name default with
  | .plain v => v
  | .object _ => .list []

end Options

def require (holds : Bool) : Except Trouble Unit := if holds then .ok () else .error .refused

structure HandlerKind where
  options : List String := []
  required : List String := []
  make : Options → Disk → Except Trouble Disk := fun _ d => .ok d
  output : Options → Output := fun _ => .working

def holdsLetter (c : Char) : Value → Except Trouble Bool
  | .text s => .ok (s.toList.contains c)
  | .list items | .set items => .ok (items.any (Value.sameKey (.text (.ofList [c]))))
  | .mapping entries => .ok (entries.any (·.1.sameKey (.text (.ofList [c]))))
  | _ => .error .refused

def pathOf : Value → Except Trouble Path
  | .text name => .ok (Path.parse name)
  | .bytes data => match String.fromUTF8? ⟨data.toArray⟩ with
    | some name => .ok (Path.parse name)
    | none => .error .refused
  | _ => .error .refused

def logFile (mode : Value) (o : Options) : Except Trouble LogFile := do
  let path ← pathOf (← o.value "filename")
  let _ ← holdsLetter 'b' mode
  return { path, mode, encoding := o.valueOr "encoding", errors := o.valueOr "errors" }

def openLog (mode : Value) (o : Options) (d : Disk) : Except Trouble Disk := do
  let f ← logFile mode o
  if (o.get "delay").isGiven then return d
  (f.openOn d).mapError fun _ => .refused

def appending : Value := .text "a"

def openInMode (o : Options) (d : Disk) : Except Trouble Disk := do
  openLog (← o.value "mode" appending) o d

def fileOutput (o : Options) : Output :=
  if (o.get "delay").isGiven then
    match logFile (o.valueOr "mode" appending) o with
    | .ok f => .file f
    | .error _ => .working
  else .working

def openBySize (o : Options) (d : Disk) : Except Trouble Disk := do
  let size ← o.value "maxBytes" (.int 0)
  require (isNumber size)
  if !isAtMost 0 size then openLog appending o d else openInMode o d

def times : List String × List String :=
  (["S", "M", "H", "D"], ["MIDNIGHT", "W0", "W1", "W2", "W3", "W4", "W5", "W6"])

def isTimeOfDay : Value → Bool
  | .null | .moment (.instant ..) => true
  | _ => false

def openByTime (o : Options) (d : Disk) : Except Trouble Disk := do
  let d ← openLog appending o d
  let .text when := ← o.value "when" (.text "h") | throw .refused
  require (isNumber (← o.value "interval" (.int 1)))
  let when := Text.upper when
  require (when ∈ times.1 || (when ∈ times.2 && isTimeOfDay (← o.value "atTime")))
  return d

def isPair : Setting → Bool
  | .plain (.list items) => items.length = 2
  | _ => true

def isByte (text : String) : Bool :=
  let cs := text.toList
  cs ≠ [] && cs.length ≤ 3 && cs.all Char.isDigit && (Text.Numeral.int? 10 cs).any (· < 256)

def isKnownHost (name : String) : Bool :=
  name = "localhost" || match name.splitOn "." with
    | [a, b, c, d] => [a, b, c, d].all isByte
    | _ => false

def isPort : Value → Bool
  | .bool _ | .int _ => true
  | .text s => s ≠ "" && s.toList.all Char.isDigit
  | _ => false

def isSystemLog : Setting → Bool
  | .plain (.text _) => true
  | .plain (.list [.text host, port]) => isKnownHost host && isPort port
  | _ => false

def packets : Int := 2

def checkSystemLog (o : Options) (d : Disk) : Except Trouble Disk := do
  require (isSystemLog (o.get "address" (.list [.text "localhost", .int 514])))
  match ← o.value "socktype" with
  | .null => return d
  | v => do
    require (v.sameKey (.int packets))
    return d

def checkMail (o : Options) (d : Disk) : Except Trouble Disk := do
  require (isPair (o.get "mailhost") && isPair (o.get "credentials"))
  return d

def checkRequest (o : Options) (d : Disk) : Except Trouble Disk := do
  let .text verb := ← o.value "method" (.text "GET") | throw .refused
  require (Text.upper verb ∈ ["GET", "POST"])
  require ((o.get "secure").isGiven || (o.get "context").isNull)
  return d

def memoryName : String := "logging.handlers.MemoryHandler"

def handlerKinds : List (String × HandlerKind) :=
  [("logging.Handler", { output := fun _ => .missing }),
    ("logging.NullHandler", {}),
    ("logging._StderrHandler", {}),
    ("logging.StreamHandler", { options := ["stream"] }),
    ("logging.FileHandler",
      { options := ["filename", "mode", "encoding", "delay", "errors"]
        required := ["filename"]
        make := openInMode
        output := fileOutput }),
    ("logging.handlers.WatchedFileHandler",
      { options := ["filename", "mode", "encoding", "delay", "errors"]
        required := ["filename"]
        make := openInMode
        output := fileOutput }),
    ("logging.handlers.BaseRotatingHandler",
      { options := ["filename", "mode", "encoding", "delay", "errors"]
        required := ["filename", "mode"]
        make := openInMode }),
    ("logging.handlers.RotatingFileHandler",
      { options := ["filename", "mode", "maxBytes", "backupCount", "encoding", "delay", "errors"]
        required := ["filename"]
        make := openBySize }),
    ("logging.handlers.TimedRotatingFileHandler",
      { options := ["filename", "when", "interval", "backupCount", "encoding", "delay", "utc",
          "atTime", "errors"]
        required := ["filename"]
        make := openByTime }),
    ("logging.handlers.SocketHandler",
      { options := ["host", "port"], required := ["host", "port"] }),
    ("logging.handlers.DatagramHandler",
      { options := ["host", "port"], required := ["host", "port"] }),
    ("logging.handlers.SysLogHandler",
      { options := ["address", "facility", "socktype"], make := checkSystemLog }),
    ("logging.handlers.NTEventLogHandler",
      { options := ["appname", "dllname", "logtype"], required := ["appname"] }),
    ("logging.handlers.SMTPHandler",
      { options := ["mailhost", "fromaddr", "toaddrs", "subject", "credentials", "secure",
          "timeout"]
        required := ["mailhost", "fromaddr", "toaddrs", "subject"]
        make := checkMail }),
    ("logging.handlers.HTTPHandler",
      { options := ["host", "url", "method", "secure", "credentials", "context"]
        required := ["host", "url"]
        make := checkRequest }),
    ("logging.handlers.QueueHandler", { options := ["queue"], required := ["queue"] }),
    ("logging.handlers.BufferingHandler",
      { options := ["capacity"]
        required := ["capacity"]
        output := fun o => .counting (o.valueOr "capacity") none }),
    (memoryName,
      { options := ["capacity", "flushLevel", "target", "flushOnClose"]
        required := ["capacity"]
        output := fun o => .counting (o.valueOr "capacity") (o.valueOr "flushLevel" (.int 40)) }),
    ("rich.logging.RichHandler",
      { options := ["console", "show_time", "omit_repeated_times", "show_level", "show_path",
          "enable_link_path", "highlighter", "markup", "rich_tracebacks", "tracebacks_width",
          "tracebacks_code_width", "tracebacks_extra_lines", "tracebacks_theme",
          "tracebacks_word_wrap", "tracebacks_show_locals", "tracebacks_suppress",
          "tracebacks_max_frames", "locals_max_length", "locals_max_string", "log_time_format",
          "keywords"] })]

def HandlerKind.takes (k : HandlerKind) (o : Options) : Bool :=
  o.all (fun option => option.1 ∈ k.options) && k.required.all fun name => (o.lookup name).isSome

end ServiceClient.Logging

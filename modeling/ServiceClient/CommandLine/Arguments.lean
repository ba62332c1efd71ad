import ServiceClient.Path

namespace ServiceClient.CommandLine

structure Opt where
  long : String
  short : Option Char := none
  takesValue : Bool := true
  deriving DecidableEq

structure Parsed where
  options : List (String × String) := []
  positional : List String := []

namespace Parsed

def value? (p : Parsed) (long : String) : Option String := p.options.reverse.lookup long

def isSet (p : Parsed) (long : String) : Bool := (p.value? long).isSome

def addOption (p : Parsed) (long value : String) : Parsed :=
  { p with options := p.options ++ [(long, value)] }

def addPositional (p : Parsed) (arg : String) : Parsed :=
  { p with positional := p.positional ++ [arg] }

end Parsed

def splitValue (cs : List Char) : String × Option String :=
  let name := String.ofList (cs.takeWhile (· ≠ '='))
  match cs.dropWhile (· ≠ '=') with
  | _ :: value => (name, some (.ofList value))
  | [] => (name, none)

def letters (opts : List Opt) : List Char → List String → Parsed → Option (List String × Parsed)
  | [], args, p => some (args, p)
  | c :: cs, args, p =>
    match opts.find? (·.short = some c) with
    | none => none
    | some o =>
      if !o.takesValue then letters opts cs args (p.addOption o.long "")
      -- The letters that are left are the value, or else the next argument is.
      else match cs, args with
        | _ :: _, args => some (args, p.addOption o.long (.ofList cs))
        | [], value :: args => some (args, p.addOption o.long value)
        | [], [] => none

def long (opts : List Opt) (arg : String) (args : List String) (p : Parsed) :
    Option (List String × Parsed) := do
  let (name, value) := splitValue arg.toList
  let o ← opts.find? (·.long = name)
  match o.takesValue, value, args with
  | true, some value, args => return (args, p.addOption o.long value)
  | true, none, value :: args => return (args, p.addOption o.long value)
  | true, none, [] => none
  | false, none, args => return (args, p.addOption o.long "")
  | false, some _, _ => none

def option (opts : List Opt) (arg : String) (args : List String) (p : Parsed) :
    Option (List String × Parsed) :=
  match arg.toList with
  | '-' :: '-' :: _ => long opts arg args p
  | _ :: cs => letters opts cs args p
  | [] => none

def takeArguments (opts : List Opt) : Nat → List String → Parsed → Option Parsed
  | 0, _, p => some p
  | _, [], p => some p
  | fuel + 1, arg :: args, p =>
    if arg = "--" then some { p with positional := p.positional ++ args }
    else if arg.toList.head? = some '-' ∧ arg ≠ "-" then do
      let (args, p) ← option opts arg args p
      takeArguments opts fuel args p
    else takeArguments opts fuel args (p.addPositional arg)

def parse (opts : List Opt) (args : List String) : Option Parsed :=
  takeArguments opts args.length args {}

def help : Opt := { long := "--help", takesValue := false }

def logLevel : Opt := { long := "--log-level" }

def generateOptions : List Opt :=
  [{ long := "--config", short := some 'c' }, { long := "--base-path" },
    { long := "--output-dir", short := some 'o' },
    { long := "--lenient-duplicates", takesValue := false },
    { long := "--dry-run", takesValue := false },
    { long := "--verbose", short := some 'v', takesValue := false }, logLevel, help]

def validateOptions : List Opt := [{ long := "--controller-suffix" }, logLevel, help]

inductive Command : Type
  | generate (snapshot : String) (config basePath outputDir : Option String)
      (lenientDuplicates dryRun verbose : Bool) (logLevel : String) : Command
  | validateSnapshot (snapshot controllerSuffix logLevel : String) : Command
  | showHelp : Command
  deriving DecidableEq

def defaultLevel : String := "INFO"

def generateCommand (args : List String) : Option Command := do
  let p ← parse generateOptions args
  if p.isSet "--help" then return .showHelp
  let [snapshot] := p.positional | none
  return .generate snapshot (p.value? "--config") (p.value? "--base-path")
    (p.value? "--output-dir") (p.isSet "--lenient-duplicates") (p.isSet "--dry-run")
    (p.isSet "--verbose") ((p.value? "--log-level").getD defaultLevel)

def validateCommand (args : List String) : Option Command := do
  let p ← parse validateOptions args
  if p.isSet "--help" then return .showHelp
  let [snapshot] := p.positional | none
  return .validateSnapshot snapshot ((p.value? "--controller-suffix").getD "Controller")
    ((p.value? "--log-level").getD defaultLevel)

def leading : List String → Option (Bool × List String)
  | [] => some (false, [])
  | arg :: args =>
    if arg = "--" then some (false, args)
    else if arg = "--help" then (leading args).map fun r => (true, r.2)
    else if arg.toList.head? = some '-' ∧ arg ≠ "-" then none
    else some (false, arg :: args)

/-- The command that arguments ask for, if they are well formed. Where the name of no command
stands, help may still be asked for. -/
def command? (args : List String) : Option Command := do
  match ← leading args with
  | (true, _) => return .showHelp
  | (false, []) => none
  | (false, name :: args) =>
    if name = "generate" then generateCommand args
    else if name = "validate-snapshot" then validateCommand args
    else
      let (asksForHelp, _) ← leading (name :: args)
      if asksForHelp then return .showHelp else none

end ServiceClient.CommandLine

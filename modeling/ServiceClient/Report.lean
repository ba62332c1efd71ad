import ServiceClient.Generation
import ServiceClient.Settings.Reading
import ServiceClient.Snapshot.Reading

namespace ServiceClient

inductive Tree : Type
  | branch (label : String) (children : List Tree) : Tree

/-- A thing shown. An echo is shown without regard to styles. -/
inductive Printed : Type
  | panel (body title : String) (subtitle : Option String) : Printed
  | table (title : String) (headers : List String) (rows : List (List String)) : Printed
  | tree (t : Tree) : Printed
  | line (text : String) : Printed
  | echo (text : String) : Printed

inductive FailureKind : Type
  | general : FailureKind
  | descriptor : FailureKind
  | snapshot : FailureKind
  | settings : FailureKind
  | unmappable : FailureKind
  | preamble : FailureKind
  | write : FailureKind
  deriving DecidableEq

def FailureKind.title : FailureKind → String
  | general => "TypeScripterError"
  | descriptor => "Invalid descriptor"
  | snapshot => "Invalid descriptor snapshot"
  | settings => "Invalid configuration"
  | unmappable => "UnmappableTypeError"
  | preamble => "Cannot render module header"
  | write => "Cannot write module"

def FailureKind.hint : FailureKind → Option String
  | general | unmappable => none
  | descriptor => some "Types use host notation such as 'List<User>', 'Int32?' or 'User[]'."
  | snapshot => some "Run 'typescripter validate-snapshot' on the file to see every problem."
  | settings => some "Check the config file keys and the --base-path/--output-dir options."
  | preamble => some "module_name and every model name must be valid TypeScript identifiers."
  | write => some "Check that the output directory exists or can be created and is writable."

/-- The message of a failure that has perhaps a reason. A type that cannot be mapped has a sentence
for it; elsewhere the two texts stand quoted side by side. -/
def FailureKind.message (kind : FailureKind) (text : String) (reason : Option String) : String :=
  match kind, reason with
  | unmappable, reason => TypeScript.unmappableMessage text (reason.getD "")
  | _, none => text
  | _, some reason => "(" ++ ", ".intercalate [Text.quoted text, Text.quoted reason] ++ ")"

namespace Report

def failure (kind : FailureKind) (message command : String) : Printed :=
  let body := "[red]" ++ message ++ "[/red]"
  let body := match kind.hint with
    | some hint => body ++ "\n\n[dim]" ++ hint ++ "[/dim]"
    | none => body
  .panel body ("❌ " ++ kind.title) (some ("typescripter " ++ command))

def banner (snapshot output : Path) (basePath : String) : Printed :=
  let base := if basePath = "" then "[dim](none)[/dim]" else basePath
  .panel ("[bold]Snapshot:[/bold] " ++ snapshot.render ++ "\n[bold]Output:[/bold] " ++ output.render
    ++ "\n[bold]Base path:[/bold] " ++ base) "🧬 TypeScripter" none

def summary (s : Summary) : Printed :=
  .table "📊 Generation Summary" ["Controllers", "Methods", "Emitted", "Skipped"]
    [[s.controllers, s.methodsProcessed, s.methodsEmitted, s.methodsSkipped].map toString]

def styledSeverity : Severity → String
  | .warning => "[yellow]warning[/yellow]"
  | .error => "[red]error[/red]"

def diagnosticRow (d : Diagnostic) : List String :=
  [styledSeverity d.severity, d.kind.name, d.location, d.message]

def diagnostics (ds : List Diagnostic) : List Printed :=
  if ds = [] then []
  else [.table "⚠️  Diagnostics" ["Severity", "Kind", "Location", "Message"] (ds.map diagnosticRow)]

def status (g : Generation) (dryRun : Bool) : Printed :=
  let path := g.outputPath.render
  if g.modules = [] then .line "[yellow]⚠️  No base path configured, nothing generated.[/yellow]"
  else if dryRun then .line ("[cyan]Dry run: " ++ path ++ " not written.[/cyan]")
  else if g.written then .line ("[bold green]✅ Wrote " ++ path ++ "[/bold green]")
  else .line ("[green]✅ " ++ path ++ " is up to date.[/green]")

def generation (g : Generation) (dryRun : Bool) : List Printed :=
  summary g.summary :: diagnostics g.diagnostics ++ [status g dryRun]

def methodBranch (m : Method) : Tree :=
  let verb := match m.verb with
    | some verb => " [dim](" ++ verb.name ++ ")[/dim]"
    | none => ""
  .branch (m.name ++ verb) []

def controllerBranch (suffix : String) (c : Controller) : Tree :=
  .branch ("[cyan]" ++ c.resourceName suffix ++ "[/cyan]") (c.exposed.map methodBranch)

def controllerTree (s : Snapshot) (suffix : String) : Tree :=
  -- By folded name alone, and stable, unlike the order of the module.
  let controllers := s.controllers.mergeSort fun a b =>
    Text.inOrder (Text.fold a.name) (Text.fold b.name)
  .branch "[bold blue]Controllers[/bold blue]" (controllers.map (controllerBranch suffix))

def snapshot (s : Snapshot) (suffix : String) : List Printed :=
  [.panel ("[green]✅ Snapshot is valid[/green]\n\n[bold]Controllers:[/bold] "
      ++ toString s.controllers.length ++ "\n[bold]Methods:[/bold] " ++ toString s.methodCount
      ++ "\n[bold]Models:[/bold] " ++ toString s.models.length)
      "📋 Snapshot Validation Results" none,
    .tree (controllerTree s suffix)]

end Report

end ServiceClient

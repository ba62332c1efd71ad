import ServiceClient.Entry
import ServiceClient.TypeScript.Lexical

/-!
The text of the generated module: fixed lines and imports, the class with one grouping of entries
for each controller, and the handler of errors. Groupings and entries are in alphabetical order,
so that the order of the input never shows.
-/

namespace ServiceClient

structure Grouping where
  resourceName : String
  entries : List Entry := []
  deriving DecidableEq

namespace Grouping

def memberName (g : Grouping) : String := Naming.camelize g.resourceName

def lines (g : Grouping) : List String :=
  ["\t" ++ g.memberName ++ " = \x7b"]
    ++ (Text.sortByName Entry.sourceName g.entries).map Entry.render ++ ["\t\x7d;"]

end Grouping

namespace DataService

inductive PreambleError : Type
  | className (name : String) : PreambleError
  | modelName (name : String) : PreambleError
  deriving DecidableEq

def PreambleError.message : PreambleError → String
  | .className name => s!"Service class name '{name}' is not a valid TypeScript identifier"
  | .modelName name => s!"Model name '{name}' is not a valid TypeScript identifier"

def preamble : List String :=
  ["// tslint:disable:max-line-length",
    "// tslint:disable:member-ordering",
    "import \x7b Injectable \x7d from '@angular/core';",
    "import \x7b Http, Response \x7d from '@angular/http';",
    "import \x7b Observable \x7d from 'rxjs';",
    "import * as moment from 'moment';"]

def errorHandler : List String :=
  ["\tprivate handleError(error: Response | any) \x7b",
    "\t\tlet errMsg: string;",
    "\t\tif (error instanceof Response) \x7b",
    "\t\t\tconst hdr = error.headers.get('ExceptionMessage');",
    "\t\t\tconst body = error.json() || '';",
    "\t\t\tconst err = body.error || JSON.stringify(body);",
    "\t\t\terrMsg = `$\x7berror.status\x7d$\x7bhdr ? ' - ' + hdr : ''\x7d - "
      ++ "$\x7berror.statusText || ''\x7d $\x7berr\x7d`;",
    "\t\t\x7d else \x7b",
    "\t\t\terrMsg = error.message ? error.message : error.toString();",
    "\t\t\x7d",
    "\t\tconsole.error(errMsg);",
    "\t\treturn Observable.throw(errMsg);",
    "\t\x7d"]

def importLine (importPath model : String) : String :=
  "import \x7b " ++ model ++ " \x7d from '" ++ TypeScript.escaped importPath ++ "';"

def fault? (className : String) (registry : Registry) : Option PreambleError :=
  if !TypeScript.isIdentifierLine className then some (.className className)
  else (registry.sortedNames.find? (!TypeScript.isIdentifierLine ·)).map .modelName

def opening (className basePath : String) : List String :=
  ["",
    "@Injectable()",
    "export class " ++ className ++ " \x7b",
    "\tconstructor(private http: Http) \x7b\x7d",
    "",
    "\tapiRelativePath: string = '" ++ TypeScript.escaped basePath ++ "';",
    ""]

def lines (className importPath basePath : String) (registry : Registry)
    (groupings : List Grouping) : List String :=
  preamble ++ registry.sortedNames.map (importLine importPath) ++ opening className basePath
    ++ (Text.sortByName Grouping.resourceName groupings).flatMap Grouping.lines
    ++ [""] ++ errorHandler ++ ["\x7d"]

def emit (className importPath basePath : String) (registry : Registry)
    (groupings : List Grouping) : Except PreambleError String :=
  match fault? className registry with
  | some fault => .error fault
  | none =>
    .ok (String.join ((lines className importPath basePath registry groupings).map (· ++ "\n")))

end DataService

end ServiceClient

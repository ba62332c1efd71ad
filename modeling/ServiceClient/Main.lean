import ServiceClient.CommandLine.Run
import ServiceClient.Report.Markup

namespace ServiceClient

def FileError.ofMachine : IO.Error → FileError
  | .noFileOrDirectory .. | .noSuchThing .. => .notFound
  | .alreadyExists .. => .alreadyExists
  | .inappropriateType .. => .isDirectory
  | .invalidArgument .. => .nameTooLong
  | _ => .other

def attempt (action : IO α) : IO (Except FileError α) := do
  return (← action.toBaseIO).mapError .ofMachine

def Path.beside (p : Path) (name : String) : Path := p.parent.child name

def someWord : IO String := do
  let letters := "abcdefghijklmnopqrstuvwxyz0123456789_".toList
  let chosen ← (List.range 8).mapM fun _ => return letters.getD (← IO.rand 0 36) 'a'
  return .ofList chosen

def maxTries : Nat := 238328

def createBeside (p : Path) : (tries : Nat) → IO String
  | 0 => throw (.alreadyExists none 17 "No usable temporary file name found")
  | tries + 1 => do
    let name := p.pendingName (← someWord)
    try
      let _ ← IO.FS.Handle.mk (p.beside name).render .writeNew
      return name
    catch
      | .alreadyExists .. => createBeside p tries
      | e => throw e

def removeBeside (p : Path) (name : String) : IO Unit := do
  try IO.FS.removeFile (p.beside name).render
  catch
    | .noFileOrDirectory .. => return
    | e => throw e

instance : FileSystem IO where
  read p := attempt (IO.FS.readBinFile p.render)
  makeParents p := attempt (IO.FS.createDirAll p.parent.render)
  createBeside p := attempt (createBeside p maxTries)
  fillBeside p name bytes := attempt (IO.FS.writeBinFile (p.beside name).render bytes)
  moveIntoPlace p name := attempt (IO.FS.rename (p.beside name).render p.render)
  removeBeside p name := attempt (removeBeside p name)

def Environment.ofMachine : IO Environment := do
  return {
    basePath := ← IO.getEnv "TYPESCRIPTER_BASE_PATH"
    outputDir := ← IO.getEnv "TYPESCRIPTER_OUTPUT_DIR"
    mode := ← IO.getEnv "TYPESCRIPTER_ENV" }

def CommandLine.usage : String :=
  "Usage: typescripter generate SNAPSHOT [options]\n"
    ++ "       typescripter validate-snapshot SNAPSHOT [options]"

end ServiceClient

open ServiceClient CommandLine in
def main (args : List String) : IO UInt32 := do
  let outcome : Outcome ← runOn .markup (← Environment.ofMachine) args
  if outcome.isUsageError then IO.eprintln usage
  if command? args = some .showHelp then IO.println usage
  outcome.printed.forM fun printed => printed.lines.forM IO.println
  return outcome.exitCode.toUInt32

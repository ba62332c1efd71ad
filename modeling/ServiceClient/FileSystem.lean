import ServiceClient.FileError
import ServiceClient.Path

/-!
What the program needs of a file system, and the writing of a file that is left alone if it holds
the content already.
-/

namespace ServiceClient

class FileSystem (m : Type → Type) where
  read : Path → m (Except FileError ByteArray)
  makeParents : Path → m (Except FileError Unit)
  createBeside : Path → m (Except FileError String)
  fillBeside : Path → String → ByteArray → m (Except FileError Unit)
  /-- Puts the file of that name into the place of a path, as a whole or not at all. -/
  moveIntoPlace : Path → String → m (Except FileError Unit)
  removeBeside : Path → String → m (Except FileError Unit)

def Path.pendingName (p : Path) (word : String) : String := "." ++ p.name ++ "." ++ word ++ ".tmp"

namespace FileSystem

variable {m : Type → Type} [Monad m] [FileSystem m]

inductive Status : Type
  | file : Status
  | directory : Status
  | absent : Status
  deriving DecidableEq

def Status.ofRead : Except FileError α → Status
  | .ok _ => .file
  | .error .isDirectory => .directory
  | .error _ => .absent

def status (p : Path) : m Status := do
  return .ofRead (← read p)

def fillAndMove (p : Path) (name : String) (bytes : ByteArray) : m (Except FileError Unit) := do
  match ← fillBeside p name bytes with
  | .error e => return .error e
  | .ok () => moveIntoPlace p name

def giveUp (p : Path) (name : String) (error : FileError) : m (Except FileError Unit) := do
  match ← removeBeside p name with
  | .error e => return .error e
  | .ok () => return .error error

def replace (p : Path) (bytes : ByteArray) : m (Except FileError Unit) := do
  match ← createBeside p with
  | .error e => return .error e
  | .ok name =>
    match ← fillAndMove p name bytes with
    | .error e => giveUp p name e
    | .ok () => return .ok ()

def overwrite (p : Path) (bytes : ByteArray) : m (Except FileError Unit) := do
  match ← makeParents p with
  | .error e => return .error e
  | .ok () => replace p bytes

/-- Writes a text into a file, unless the file holds exactly its bytes. Says whether it did. -/
def writeIfChanged (text : String) (p : Path) : m (Except FileError Bool) := do
  match ← read p with
  | .ok bytes =>
    if bytes.data = text.toUTF8.data then return .ok false
    else return (← overwrite p text.toUTF8).map fun _ => true
  | .error .nameTooLong => return .error .nameTooLong
  | .error _ => return (← overwrite p text.toUTF8).map fun _ => true

end FileSystem

end ServiceClient

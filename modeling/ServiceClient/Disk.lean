import ServiceClient.FileSystem

/-!
A file system in memory: directories and files by their places, a place being the names that lead
to it from the root. Paths that are not absolute begin at the working directory.
-/

namespace ServiceClient

inductive Disk.Entry : Type
  | directory : Disk.Entry
  | file (bytes : ByteArray) : Disk.Entry

/-- The entries by their places, where the root is a directory without being listed, and the words
that are tried in turn to make a name that nothing has. -/
structure Disk where
  entries : List (List String × Disk.Entry) := []
  workingDirectory : List String := []
  words : List String := ["aaaaaaaa", "bbbbbbbb", "cccccccc"]

namespace Disk

abbrev Place := List String

def entryAt (d : Disk) (p : Place) : Option Entry :=
  if p = [] then some .directory else d.entries.lookup p

def put (d : Disk) (p : Place) (e : Entry) : Disk :=
  { d with entries := (p, e) :: d.entries.filter (·.1 ≠ p) }

def remove (d : Disk) (p : Place) : Disk := { d with entries := d.entries.filter (·.1 ≠ p) }

def maxName : Nat := 255

def enter (here : Place) (part : String) : Place :=
  if part = ".." then here.dropLast else here ++ [part]

def follow (d : Disk) (here : Place) : List String → Except FileError Place
  | [] => .ok here
  | part :: parts =>
    -- Another part follows, so there has to be a directory here, but the last place may be empty.
    match d.entryAt here with
    | none => .error .notFound
    | some (.file _) => .error .notDirectory
    | some .directory =>
      if maxName < part.utf8ByteSize then .error .nameTooLong
      else d.follow (enter here part) parts

def start (d : Disk) (p : Path) : Place := if p.isAbsolute then [] else d.workingDirectory

def maxPath : Nat := 4095

def checkPath (p : Path) : Except FileError Unit :=
  if p.hasNull then .error .nullInName
  else if maxPath < p.render.utf8ByteSize then .error .nameTooLong
  else .ok ()

def placeOf (d : Disk) (p : Path) : Except FileError Place := do
  checkPath p
  d.follow (d.start p) p.parts

def locate (d : Disk) (p : Path) : Except FileError (Place × Entry) := do
  let place ← d.placeOf p
  match d.entryAt place with
  | some e => return (place, e)
  | none => throw .notFound

def read (d : Disk) (p : Path) : Except FileError ByteArray := do
  match ← d.locate p with
  | (_, .file bytes) => return bytes
  | (_, .directory) => throw .isDirectory

def makeOne (d : Disk) (here : Place) (parts : List String) : Except FileError Disk := do
  let place ← d.follow here parts
  match d.entryAt place with
  | some _ => throw .alreadyExists
  | none => return d.put place .directory

def unlessDirectory (d : Disk) (here : Place) (parts : List String) (error : FileError) :
    Except FileError Unit :=
  match (d.follow here parts).map d.entryAt with
  | .ok (some .directory) => .ok ()
  | _ => .error error

/-- Makes a directory, and those that lead to it as far as they are missing. It is given by its
parts, the last one first, and may be there already if `mayExist`. On a failure those made stay. -/
def makeAll (d : Disk) (here : Place) : (mayExist : Bool) → List String →
    Disk × Except FileError Unit
  | mayExist, [] => match d.makeOne here [] with
    | .ok d => (d, .ok ())
    | .error e => (d, if mayExist then d.unlessDirectory here [] e else .error e)
  | mayExist, last :: before =>
    let parts := (last :: before).reverse
    match d.makeOne here parts with
    | .ok d => (d, .ok ())
    | .error .notFound => match d.makeAll here true before with
      | (d, .error e) => (d, .error e)
      | (d, .ok ()) => match d.makeOne here parts with
        | .ok d => (d, .ok ())
        | .error e => (d, if mayExist then d.unlessDirectory here parts e else .error e)
    | .error e => (d, if mayExist then d.unlessDirectory here parts e else .error e)

def make (d : Disk) (mayExist : Bool) (p : Path) : Disk × Except FileError Unit :=
  match checkPath p with
  | .error e => (d, .error e)
  | .ok () => d.makeAll (d.start p) mayExist p.parts.reverse

def makeParents (d : Disk) (p : Path) : Disk × Except FileError Unit := d.make true p.parent

def makeDirectory (d : Disk) (p : Path) : Disk × Except FileError Unit := d.make false p

def putFile (d : Disk) (p : Path) (bytes : ByteArray) : Disk × Except FileError Unit :=
  match d.placeOf p with
  | .error e => (d, .error e)
  | .ok place => match d.entryAt place with
    | some .directory => (d, .error .isDirectory)
    | _ => (d.put place (.file bytes), .ok ())

def absolute (d : Disk) (p : Path) : Path where
  slashes := if p.isAbsolute then p.slashes else 1
  -- A part that goes up takes away the part before, wherever that would have led.
  parts := p.parts.foldl enter (d.start p)

def beside (d : Disk) (p : Path) (name : String) : Path := (d.absolute p.parent).child name

def create (d : Disk) (p : Path) : Except FileError Disk := do
  if maxPath < p.render.utf8ByteSize then throw .nameTooLong
  let _ ← d.follow [] p.parts
  match d.entryAt p.parts with
  | some _ => throw .alreadyExists
  | none => return d.put p.parts (.file .empty)

def createAmong (d : Disk) (p : Path) : List String → Disk × Except FileError String
  | [] => (d, .error .alreadyExists)
  | word :: words =>
    let name := p.pendingName word
    match d.create (d.beside p name) with
    | .ok d => (d, .ok name)
    | .error .alreadyExists => d.createAmong p words
    | .error e => (d, .error e)

def createBeside (d : Disk) (p : Path) : Disk × Except FileError String :=
  if p.hasNull then (d, .error .nullInName) else d.createAmong p d.words

def fillBeside (d : Disk) (p : Path) (name : String) (bytes : ByteArray) :
    Disk × Except FileError Unit :=
  let pending := (d.beside p name).parts
  match d.entryAt pending with
  | some (.file _) => (d.put pending (.file bytes), .ok ())
  | some .directory => (d, .error .isDirectory)
  | none => (d, .error .notFound)

def moveIntoPlace (d : Disk) (p : Path) (name : String) : Disk × Except FileError Unit :=
  let pending := (d.beside p name).parts
  match d.entryAt pending with
  | some (.file bytes) => match (d.remove pending).putFile p bytes with
    | (d, .ok ()) => (d, .ok ())
    | (_, .error e) => (d, .error e)
  | some .directory => (d, .error .isDirectory)
  | none => (d, .error .notFound)

def removeBeside (d : Disk) (p : Path) (name : String) : Disk × Except FileError Unit :=
  let pending := (d.beside p name).parts
  match d.entryAt pending with
  | some .directory => (d, .error .isDirectory)
  | _ => (d.remove pending, .ok ())

def write (d : Disk) (p : Path) (bytes : ByteArray) : Disk × Except FileError Unit :=
  match d.makeParents p with
  | (d, .error e) => (d, .error e)
  | (d, .ok ()) => d.putFile p bytes

inductive Opening : Type
  | existing : Opening
  | new : Opening
  | either : Opening
  deriving DecidableEq

def openFile (d : Disk) (opening : Opening) (p : Path) : Except FileError Disk := do
  checkPath p
  let place ← d.follow [] (d.absolute p).parts
  match d.entryAt place, opening with
  | some .directory, _ => throw .isDirectory
  | some (.file _), .new => throw .alreadyExists
  | some (.file _), _ => return d
  | none, .existing => throw .notFound
  | none, _ => return d.put place (.file .empty)

def listing (d : Disk) : List (Place × Entry) :=
  d.entries.filterMap fun e =>
    if d.workingDirectory.isPrefixOf e.1 ∧ e.1 ≠ d.workingDirectory then
      some (e.1.drop d.workingDirectory.length, e.2)
    else none

def empty : Disk where
  entries := [(["work"], .directory)]
  workingDirectory := ["work"]

instance : FileSystem (StateM Disk) where
  read p := return (← get).read p
  makeParents p := modifyGet fun d => (d.makeParents p).swap
  createBeside p := modifyGet fun d => (d.createBeside p).swap
  fillBeside p name bytes := modifyGet fun d => (d.fillBeside p name bytes).swap
  moveIntoPlace p name := modifyGet fun d => (d.moveIntoPlace p name).swap
  removeBeside p name := modifyGet fun d => (d.removeBeside p name).swap

end Disk

end ServiceClient

import ServiceClient.Logging.Formatter
import ServiceClient.Text.Order

namespace ServiceClient.Logging

def level? : Setting → Option Threshold
  | .plain (.int n) => some (.number n)
  | .plain (.bool b) => some (.truth b)
  | .plain (.text s) => (levelNumber? s).map fun n => .number n
  | _ => none

def attributeLevel? : Value → Option Threshold
  | .text s => some (.word s)
  | v => level? (.plain v)

def shortName (name : String) : String :=
  .ofList (name.toList.reverse.takeWhile (· ≠ '.')).reverse

def ownKeys : List String := ["formatter", "level", "filters", attributesName]

def Configuration.checkTarget (c : Configuration) (entries : List (Value × Value)) :
    Except Trouble Unit := do
  match ← c.get "target" entries with
  | .object _ => throw .refused
  | .plain key =>
    require (Value.find? key (← c.sectionOf "handlers")).isSome
    if !c.isMade "handlers" key then throw .unfinished

def Configuration.kindAndOptions (c : Configuration) (entries : List (Value × Value)) :
    Except Trouble (String × Options) := do
  if hasEntry makerName entries then
    return (← c.maker entries, ← c.options (makerName :: ownKeys) entries)
  let .plain (.text name) := ← c.get "class" entries | throw .refused
  if name = memoryName && hasEntry "target" entries then c.checkTarget entries
  return (name, ← c.options ("class" :: ownKeys) entries)

def Configuration.makeHandler (c : Configuration) (filters : List (Value × Filter)) (d : Disk)
    (v : Value) : Except Trouble (Handler × Disk) := do
  let entries ← c.entriesOf v
  let formatter ← c.get "formatter" entries
  if formatter.isGiven then
    let .plain key := formatter | throw .refused
    require (Value.find? key (← c.sectionOf "formatters")).isSome
  let (name, options) ← c.kindAndOptions entries
  let some kind := handlerKinds.lookup name | throw .refused
  require (kind.takes options)
  let d ← kind.make options d
  let level ← c.get "level" entries
  let some level := if level.isNull then some (.number 0) else level? level | throw .refused
  let filters ← listedParts filters (← c.get "filters" entries)
  let attributes ← c.attributes entries
  let level := ((Value.get? "level" attributes).bind attributeLevel?).getD level
  return ({ className := shortName name, level, filters, output := kind.output options }, d)

structure Making where
  config : Configuration
  filters : List (Value × Filter)
  disk : Disk
  handlers : List (Value × Handler) := []

def Making.add (s : Making) (key v : Value) : Except Trouble Making := do
  let (h, disk) ← s.config.makeHandler s.filters s.disk v
  return { s with
    disk
    config := s.config.made "handlers" [key]
    handlers := s.handlers ++ [(key, h)] }

def Making.addEach : List (Value × Value) → Making →
    Except Trouble (Making × List (Value × Value))
  | [], s => .ok (s, [])
  | (key, v) :: entries, s => match s.add key v with
    | .ok s => addEach entries s
    | .error .unfinished => do
      let (s, waiting) ← addEach entries s
      return (s, (key, v) :: waiting)
    | .error t => .error t

def areComparable : Value → Value → Bool
  | .text _, .text _ => true
  | .bytes _, .bytes _ => true
  | .moment (.day ..), .moment (.day ..) => true
  | .moment (.instant _ _ _ _ _ _ _ a), .moment (.instant _ _ _ _ _ _ _ b) => a.isSome = b.isSome
  | a, b => isNumber a && isNumber b

/-- The entries in the order of their keys, which have to be comparable. Keys that are no texts
stay as they are. -/
def inKeyOrder (entries : List (Value × Value)) : Except Trouble (List (Value × Value)) :=
  match entries with
  | e :: f :: rest =>
    if (f :: rest).all fun x => areComparable e.1 x.1 then
      .ok ((e :: f :: rest).mergeSort fun x y => match x.1, y.1 with
        | .text a, .text b => Text.inOrder a b
        | _, _ => true)
    else .error .refused
  | entries => .ok entries

def Configuration.makeHandlers (c : Configuration) (filters : List (Value × Filter)) (d : Disk) :
    Except Trouble Making := do
  let c := c.withSection "handlers"
  let entries ← inKeyOrder (← c.sectionOf "handlers")
  inSection do
    let (s, waiting) ← Making.addEach entries { config := c, filters, disk := d }
    match ← Making.addEach waiting s with
    | (s, []) => return s
    | _ => throw .refused

end ServiceClient.Logging

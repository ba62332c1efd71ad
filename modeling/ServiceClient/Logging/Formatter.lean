import ServiceClient.Logging.HandlerKind

namespace ServiceClient.Logging

def Configuration.entriesOf (c : Configuration) (v : Value) :
    Except Trouble (List (Value × Value)) := do
  match ← c.setting v with
  | .plain v => v.entries?.elim (throw .refused) pure
  | .object _ => throw .refused

def Configuration.getOr (c : Configuration) (name : String) (default : Value)
    (entries : List (Value × Value)) : Except Trouble Setting :=
  c.setting ((Value.get? name entries).getD default)

def hasEntry (name : String) (entries : List (Value × Value)) : Bool :=
  (Value.get? name entries).isSome

def makerName : String := "()"

def attributesName : String := "."

def Configuration.options (c : Configuration) (others : List String) :
    List (Value × Value) → Except Trouble Options
  | [] => .ok []
  | (.text name, v) :: entries => do
    let rest ← c.options others entries
    if name ∈ others then return rest
    return (name, ← c.setting v) :: rest
  | _ :: _ => .error .refused

def Configuration.attributes (c : Configuration) (entries : List (Value × Value)) :
    Except Trouble (List (Value × Value)) := do
  match ← c.get attributesName entries with
  | .object _ => throw .refused
  | .plain v =>
    if !isGiven v then return []
    let some attributes := v.entries? | throw .refused
    require (attributes.all fun e => e.1 matches .text _)
    return attributes

def Configuration.maker (c : Configuration) (entries : List (Value × Value)) :
    Except Trouble String := do
  match ← c.get makerName entries with
  | .plain (.text name) | .object name => return name
  | _ => throw .refused

def satisfies (layout : Setting) (style : String) : Bool :=
  !layout.isGiven || match layout, Layout.styles.lookup style with
    | .plain (.text s), some isFine => isFine s.toList
    | _, _ => false

def checkLayout (layout style : Setting) (isChecked : Bool) : Except Trouble Unit :=
  match style with
  | .plain (.text style) =>
    require ((Layout.styles.lookup style).isSome && (!isChecked || satisfies layout style))
  | _ => .error .refused

def partOptions : List (String × List String) :=
  [("logging.Formatter", ["fmt", "datefmt", "style", "validate", "defaults"]),
    ("logging.BufferingFormatter", ["linefmt"]),
    ("logging.Filter", ["name"])]

def filterBelow : Setting → Except Trouble Filter
  | .plain name => if (length? name).isSome then .ok (.below name) else .error .refused
  | .object _ => .error .refused

def makeNamed (name : String) (o : Options) : Except Trouble Filter := do
  if name = "logging.Filter" then filterBelow (o.get "name" (.text ""))
  else
    if name = "logging.Formatter" then
      checkLayout (o.get "fmt") (o.get "style" (.text "%")) (o.get "validate" (.bool true)).isGiven
    return .unusable

def renameLayout (o : Options) : Options :=
  match o.lookup "format" with
  | some layout => ("fmt", layout) :: o.filter fun option => option.1 ∉ ["format", "fmt"]
  | none => o

def Configuration.makePart (c : Configuration) (rename : Options → Options)
    (entries : List (Value × Value)) : Except Trouble Filter := do
  let name ← c.maker entries
  let some names := partOptions.lookup name | throw .refused
  let options := rename (← c.options [makerName, attributesName] entries)
  require (options.all fun option => option.1 ∈ names)
  let part ← makeNamed name options
  let _ ← c.attributes entries
  return part

def Configuration.makeFormatter (c : Configuration) (v : Value) : Except Trouble Unit := do
  let entries ← c.entriesOf v
  if hasEntry makerName entries then
    let _ ← c.makePart renameLayout entries
  else
    let layout ← c.get "format" entries
    let _ ← c.get "datefmt" entries
    let style ← c.getOr "style" (.text "%") entries
    let maker ← c.get "class" entries
    require (!maker.isGiven || maker matches .plain (.text "logging.Formatter"))
    checkLayout layout style (← c.getOr "validate" (.bool true) entries).isGiven

def Configuration.makeFilter (c : Configuration) (v : Value) : Except Trouble Filter := do
  let entries ← c.entriesOf v
  if hasEntry makerName entries then c.makePart id entries
  else filterBelow (← c.getOr "name" (.text "") entries)

def Configuration.sectionOf (c : Configuration) (name : String) :
    Except Trouble (List (Value × Value)) :=
  match Value.get? name c.entries with
  | none => .ok []
  | some v => do
    match ← c.setting v with
    | .object _ => throw .refused
    | .plain v => match v.opened with
      | .mapping entries => return entries
      | .list [] | .set [] | .text "" | .bytes [] => return []
      | _ => throw .refused

/-- A configuration whose section is there, if only as an empty one. From when a section is used on,
references find it. -/
def Configuration.withSection (c : Configuration) (name : String) : Configuration :=
  if hasEntry name c.entries then c
  else { c with entries := c.entries ++ [(.text name, .mapping [])] }

def inSection (x : Except Trouble α) : Except Trouble α := x.mapError fun _ => .refused

def Configuration.makeEach (place : String) (make : Configuration → Value → Except Trouble α) :
    List (Value × Value) → Configuration → Except Trouble (Configuration × List (Value × α))
  | [], c => .ok (c, [])
  | (key, v) :: entries, c => do
    let part ← make c v
    let (c, parts) ← makeEach place make entries (c.made place [key])
    return (c, (key, part) :: parts)

def Configuration.makeSection (c : Configuration) (place : String)
    (make : Configuration → Value → Except Trouble α) :
    Except Trouble (Configuration × List (Value × α)) := do
  let c := c.withSection place
  let entries ← c.sectionOf place
  inSection (makeEach place make entries c)

def listed? (v : Value) : Option (List Value) :=
  match v.opened with
  | .list items | .set items => some items
  | .text s => some (s.toList.map fun c => .text (.ofList [c]))
  | .bytes data => some (data.map fun b => .int b.toNat)
  | .mapping entries => some (entries.map (·.1))
  | _ => none

def listedParts (parts : List (Value × α)) (s : Setting) : Except Trouble (List α) :=
  if !s.isGiven then .ok []
  else match s with
    | .object _ => .error .refused
    | .plain v => ((listed? v).bind fun keys => keys.mapM (Value.find? · parts)).elim
        (.error .refused) .ok

end ServiceClient.Logging

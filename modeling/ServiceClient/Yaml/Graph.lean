import ServiceClient.Yaml.Instant
import ServiceClient.Yaml.Tag
import ServiceClient.Yaml.Token.Basic

/-!
The graph of a document: nodes with tags that refer to each other by their numbers, so that a node
may occur in several places and inside itself. `ofTokens` reads the one document that the tokens
make up; a text with more documents is malformed, and so is a name for a node that is given twice
or not at all.
-/

namespace ServiceClient.Yaml

inductive Content : Type
  | scalar (text : String) : Content
  | sequence (items : List Nat) : Content
  | mapping (entries : List (Nat × Nat)) : Content

structure Node where
  tag : Tag
  content : Content

structure Graph where
  nodes : Array Node
  root : Nat

namespace Tag

def ofWord (text : String) : Tag :=
  let cs := text.toList
  if (boolWords.flatMap fun w => spellings w.1).contains text then .bool
  else if isFloat cs then .float
  else if isWholeNumber (dropSign cs) then .int
  else if text = "<<" then .merge
  else if nullWords.contains text then .null
  else if Instant.isMoment cs then .moment
  else if text = "=" then .default
  else if ["!", "&", "*"].contains text then .other
  else .text

def ofPlain (text : String) : Tag :=
  match text.toList.reverse with
  | '\n' :: c :: cs => ofWord (.ofList (c :: cs).reverse)
  | ['\n'] => .text
  | _ => ofWord text

end Tag

namespace Graph

/-- The tokens left, the fault that follows them, the addresses of handles, the nodes with names,
and all nodes read so far. -/
structure Reader where
  tokens : List Token
  fault : Option Fault
  handles : List (String × String) := []
  anchors : List (String × Nat) := []
  nodes : Array Node := #[]

abbrev Reading := StateT Reader (Except Fault)

def fail : Reading α := throw .malformed

def peek : Reading (Option Token) := do
  let r ← get
  match r.tokens, r.fault with
  | [], some fault => throw fault
  | tokens, _ => return tokens.head?

def pop : Reading Unit := modify fun r => { r with tokens := r.tokens.tail }

structure Properties where
  anchor : Option String := none
  tag : Option (Option String × String) := none

def properties : Reading Properties := do
  match (← get).tokens with
  | .anchor name :: .tag handle suffix :: rest =>
    modify fun r => { r with tokens := rest }
    return ⟨some name, some (handle, suffix)⟩
  | .tag handle suffix :: .anchor name :: rest =>
    modify fun r => { r with tokens := rest }
    return ⟨some name, some (handle, suffix)⟩
  | .anchor name :: rest =>
    modify fun r => { r with tokens := rest }
    return { anchor := some name }
  | .tag handle suffix :: rest =>
    modify fun r => { r with tokens := rest }
    -- A name is looked for after the tag, where a fault may come instead.
    let _ ← peek
    return { tag := some (handle, suffix) }
  | _ => return {}

def address (tag : Option (Option String × String)) : Reading (Option String) := do
  match tag with
  | none => return none
  | some (none, suffix) => return some suffix
  | some (some handle, suffix) =>
    match (← get).handles.lookup handle with
    | some start => return some (start ++ suffix)
    | none => fail

def create (anchor : Option String) (tag : Tag) (content : Content) : Reading Nat := do
  let r ← get
  let id := r.nodes.size
  let anchors ← match anchor with
    | none => pure r.anchors
    | some name => if (r.anchors.lookup name).isSome then fail else pure ((name, id) :: r.anchors)
  set { r with nodes := r.nodes.push { tag, content }, anchors }
  return id

def complete (id : Nat) (content : Content) : Reading Nat := do
  modify fun r => { r with nodes := r.nodes.modify id fun n => { n with content } }
  return id

def emptyNode : Reading Nat := create none .null (.scalar "")

def scalarTag (address : Option String) (text : String) (plain : Bool) : Tag :=
  match address with
  | none => if plain then .ofPlain text else .text
  | some "!" => .ofPlain text
  | some a => .ofAddress a

def collectionTag (address : Option String) (otherwise : Tag) : Tag :=
  match address with
  | none | some "!" => otherwise
  | some a => .ofAddress a

def emptyWith (anchor address : Option String) : Reading Nat :=
  if anchor.isNone && address.isNone then fail
  else create anchor (scalarTag address "" true) (.scalar "")

def sequenceOf (anchor address : Option String) (items : Reading (List Nat)) : Reading Nat := do
  let id ← create anchor (collectionTag address .sequence) (.sequence [])
  complete id (.sequence (← items))

def mappingOf (anchor address : Option String) (entries : Reading (List (Nat × Nat))) :
    Reading Nat := do
  let id ← create anchor (collectionTag address .mapping) (.mapping [])
  complete id (.mapping (← entries))

mutual

/-- Reads a node. Outside brackets it may be a block collection, and after a key also a sequence
that is indented no deeper. -/
def read : Nat → (block indentless : Bool) → Reading Nat
  | 0, _, _ => fail
  | fuel + 1, block, indentless => do
    match ← peek with
    | some (.alias name) =>
      pop
      match (← get).anchors.lookup name with
      | some n => return n
      | none => fail
    | _ =>
      let ps ← properties
      let address ← address ps.tag
      match ← peek with
      | some (.scalar text plain) =>
        pop
        create ps.anchor (scalarTag address text plain) (.scalar text)
      | some .flowSequenceStart =>
        pop
        sequenceOf ps.anchor address (flowItems fuel true)
      | some .flowMappingStart =>
        pop
        mappingOf ps.anchor address (flowEntries fuel true)
      | some .blockEntry =>
        if indentless then sequenceOf ps.anchor address (indentlessItems fuel)
        else emptyWith ps.anchor address
      | some .blockSequenceStart =>
        if block then
          pop
          sequenceOf ps.anchor address (blockItems fuel)
        else emptyWith ps.anchor address
      | some .blockMappingStart =>
        if block then
          pop
          mappingOf ps.anchor address (blockEntries fuel)
        else emptyWith ps.anchor address
      | _ => emptyWith ps.anchor address

def readUnless : Nat → (ends : Option Token → Bool) → (block indentless : Bool) → Reading Nat
  | 0, _, _, _ => fail
  | fuel + 1, ends, block, indentless => do
    if ends (← peek) then emptyNode else read fuel block indentless

def blockItems : Nat → Reading (List Nat)
  | 0 => fail
  | fuel + 1 => do
    match ← peek with
    | some .blockEntry =>
      pop
      let item ← readUnless fuel (fun t => t = some .blockEntry || t = some .blockEnd) true false
      return item :: (← blockItems fuel)
    | some .blockEnd =>
      pop
      return []
    | _ => fail

def indentlessItems : Nat → Reading (List Nat)
  | 0 => fail
  | fuel + 1 => do
    match ← peek with
    | some .blockEntry =>
      pop
      let item ← readUnless fuel (fun t => t = some .blockEntry || t = some .key || t = some .value
        || t = some .blockEnd) true false
      return item :: (← indentlessItems fuel)
    | _ => return []

def blockEntries : Nat → Reading (List (Nat × Nat))
  | 0 => fail
  | fuel + 1 => do
    let ends (t : Option Token) := t = some .key || t = some .value || t = some .blockEnd
    match ← peek with
    | some .key =>
      pop
      let key ← readUnless fuel ends true true
      let value ← valueUnless fuel ends true
      return (key, value) :: (← blockEntries fuel)
    | some .blockEnd =>
      pop
      return []
    | _ => fail

def valueUnless : Nat → (ends : Option Token → Bool) → (block : Bool) → Reading Nat
  | 0, _, _ => fail
  | fuel + 1, ends, block => do
    match ← peek with
    | some .value =>
      pop
      readUnless fuel ends block block
    | _ => emptyNode

def flowItems : Nat → (first : Bool) → Reading (List Nat)
  | 0, _ => fail
  | fuel + 1, first => do
    let ends (t : Option Token) := t = some .flowEntry || t = some .flowSequenceEnd
    if (← peek) = some .flowSequenceEnd then
      pop
      return []
    if !first then
      if (← peek) = some .flowEntry then pop else fail
    match ← peek with
    | some .key =>
      -- A key among items makes one of them a mapping with a single entry.
      pop
      let entry : Reading (List (Nat × Nat)) := do
        let key ← readUnless fuel (fun t => t = some .value || ends t) false false
        return [(key, ← valueUnless fuel ends false)]
      let item ← mappingOf none none entry
      return item :: (← flowItems fuel false)
    | some .flowSequenceEnd =>
      pop
      return []
    | _ =>
      let item ← read fuel false false
      return item :: (← flowItems fuel false)

def flowEntries : Nat → (first : Bool) → Reading (List (Nat × Nat))
  | 0, _ => fail
  | fuel + 1, first => do
    let ends (t : Option Token) := t = some .flowEntry || t = some .flowMappingEnd
    if (← peek) = some .flowMappingEnd then
      pop
      return []
    if !first then
      if (← peek) = some .flowEntry then pop else fail
    match ← peek with
    | some .key =>
      pop
      let key ← readUnless fuel (fun t => t = some .value || ends t) false false
      let value ← valueUnless fuel ends false
      return (key, value) :: (← flowEntries fuel false)
    | some .flowMappingEnd =>
      pop
      return []
    | _ =>
      let key ← read fuel false false
      let value ← emptyNode
      return (key, value) :: (← flowEntries fuel false)

end

def knownHandles : List (String × String) := [("!", "!"), ("!!", Tag.languageStart)]

def directives : List Token → (versioned : Bool) → List (String × String) →
    Except Fault (List (String × String) × List Token)
  | .version major _ :: rest, versioned, handles =>
    if versioned || major ≠ 1 then .error .malformed else directives rest true handles
  | .tagHandle handle start :: rest, versioned, handles =>
    if (handles.lookup handle).isSome then .error .malformed
    else directives rest versioned ((handle, start) :: handles)
  | .otherDirective :: rest, versioned, handles => directives rest versioned handles
  | tokens, _, handles => .ok (handles ++ knownHandles, tokens)

def isDirective : Token → Bool
  | .version .. | .tagHandle .. | .otherDirective => true
  | _ => false

def endsDocument : Option Token → Bool
  | none | some .documentStart | some .documentEnd => true
  | some t => isDirective t

def ofContent (r : Reader) (explicit : Bool) : Except Fault Graph := do
  let fuel := 4 * r.tokens.length + 8
  let body : Reading Nat :=
    if explicit then readUnless fuel endsDocument true false else read fuel true false
  let (root, r) ← body.run r
  match r.tokens.dropWhile (· = .documentEnd), r.fault with
  | [], none => return { nodes := r.nodes, root }
  | [], some fault => throw fault
  | _ :: _, _ => throw .malformed

def ofTokens (s : Scanned) : Except Fault (Option Graph) := do
  match s.tokens, s.fault with
  | [], none => return none
  | [], some fault => throw fault
  | t :: _, fault =>
    if t = .documentStart || isDirective t then
      match ← directives s.tokens false [] with
      | (handles, .documentStart :: tokens) =>
        return some (← ofContent { tokens, fault, handles } true)
      | (_, []) => throw (fault.getD .malformed)
      | _ => throw .malformed
    else return some (← ofContent { tokens := s.tokens, fault, handles := knownHandles } false)

end Graph

end ServiceClient.Yaml

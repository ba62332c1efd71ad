import ServiceClient.Yaml.Graph
import ServiceClient.Yaml.Scalar.Value
import ServiceClient.Yaml.Token.Lexer

/-!
The value of a document. Scalars are read by their tags as soon as they are met, while what a
collection holds is put together later, after all collections that were met before it. So of several
faults the one nearest to the root counts, and among those the first. A merge key brings in the
entries of other mappings, over which the own entries win.
-/

namespace ServiceClient.Yaml

inductive Piece : Type
  | whole (v : Value) : Piece
  | begun : Piece
  | list (items : List Nat) : Piece
  | set (keys : List Value) : Piece
  | pairs (entries : List (Nat × Nat)) : Piece
  | mapping (entries : List (Value × Nat)) : Piece

/-- The nodes, what has become of them, and the collections that have been met but not yet put
together, the last one first. -/
structure Assembly where
  nodes : Array Node
  pieces : Array (Option Piece)
  waiting : List Nat := []

namespace Assembly

abbrev Assembling := StateT Assembly (Except Fault)

def node (id : Nat) : Assembling Node := do
  match (← get).nodes[id]? with
  | some n => return n
  | none => throw .malformed

def entriesOf (id : Nat) : Assembling (List (Nat × Nat)) := do
  match (← node id).content with
  | .mapping entries => return entries
  | _ => throw .malformed

def setEntries (id : Nat) (entries : List (Nat × Nat)) : Assembling Unit :=
  modify fun a =>
    { a with nodes := a.nodes.modify id fun n => { n with content := .mapping entries } }

def become (id : Nat) (p : Piece) : Assembling Unit :=
  modify fun a => { a with pieces := a.pieces.setIfInBounds id (some p) }

def scalarText : Nat → Nat → Assembling String
  | 0, _ => throw .endless
  | fuel + 1, id => do
    match (← node id).content with
    | .scalar text => return text
    | .sequence _ => throw .malformed
    | .mapping entries =>
      match ← entries.findM? fun e => return (← node e.1).tag = .default with
      | some (_, v) => scalarText fuel v
      | none => throw .malformed

def isCollection : Tag → Bool
  | .sequence | .mapping | .set | .pairs => true
  | _ => false

def scalarValue (id : Nat) (n : Node) : Assembling Value := do
  if [Tag.merge, .default, .other].contains n.tag then throw .malformed
  let text ← scalarText ((← get).nodes.size + 1) id
  match n.tag, n.content with
  | .moment, .mapping _ => throw .notText
  | tag, _ => Scalar.value tag id text

def meet (id : Nat) : Assembling Unit := do
  if ((← get).pieces[id]?).join.isSome then return
  let n ← node id
  if isCollection n.tag then
    become id .begun
    modify fun a => { a with waiting := id :: a.waiting }
  else become id (.whole (← scalarValue id n))

def keyOf (id : Nat) : Assembling Value := do
  match ((← get).pieces[id]?).join with
  | some (.whole v) => return v
  | _ => throw .malformed

def takeMerge (id : Nat) : Assembling (Option Nat) := do
  let entries ← entriesOf id
  match ← entries.findM? fun e => return (← node e.1).tag = .merge with
  | none => return none
  | some (k, v) =>
    setEntries id (entries.erase (k, v))
    return some v

def nameDefaults (id : Nat) : Assembling Unit := do
  (← entriesOf id).forM fun e => do
    if (← node e.1).tag = .default then
      modify fun a => { a with nodes := a.nodes.modify e.1 fun n => { n with tag := .text } }

/-- Puts the entries that merge keys bring in before the own entries of a mapping. Every step takes
a merge key away, so these bound the number of steps. -/
def flatten : Nat → Nat → (found : List (Nat × Nat)) → Assembling Unit
  | 0, _, _ => return
  | fuel + 1, id, found => do
    match ← takeMerge id with
    | none =>
      setEntries id (found ++ (← entriesOf id))
      nameDefaults id
    | some source =>
      match (← node source).content with
      | .scalar _ => throw .malformed
      | .mapping _ =>
        flatten fuel source []
        flatten fuel id (found ++ (← entriesOf source))
      | .sequence items =>
        let parts ← items.mapM fun item => do
          match (← node item).content with
          | .mapping _ =>
            flatten fuel item []
            entriesOf item
          | _ => throw .malformed
        flatten fuel id (found ++ parts.reverse.flatten)

def entryCount (a : Assembly) : Nat :=
  a.nodes.foldl
    (fun count n => match n.content with
      | .mapping entries => count + entries.length
      | _ => count)
    0

/-- The entries of a mapping, each of which is met. Of equal keys the first stays, with the value of
the last. -/
def meetEntries (id : Nat) : Assembling (List (Value × Nat)) := do
  flatten ((← get).entryCount + 1) id []
  (← entriesOf id).foldlM
    (fun entries e => do
      meet e.1
      let key ← keyOf e.1
      meet e.2
      return Value.insert key e.2 entries)
    []

def meetPairs (items : List Nat) : Assembling (List (Nat × Nat)) :=
  items.mapM fun item => do
    match ← entriesOf item with
    | [(k, v)] =>
      meet k
      meet v
      return (k, v)
    | _ => throw .malformed

def finish (id : Nat) : Assembling Unit := do
  let n ← node id
  match n.tag, n.content with
  | .sequence, .sequence items =>
    items.forM meet
    become id (.list items)
  | .pairs, .sequence items => become id (.pairs (← meetPairs items))
  | .mapping, _ => become id (.mapping (← meetEntries id))
  | .set, _ => become id (.set ((← meetEntries id).map (·.1)))
  | _, _ => throw .malformed

def finishAll : Nat → Assembling Unit
  | 0 => return
  | fuel + 1 => do
    let waiting := (← get).waiting
    modify fun a => { a with waiting := [] }
    waiting.reverse.forM finish
    if waiting ≠ [] then finishAll fuel

/-- The values of nodes that do not refer to a collection around them. -/
abbrev Known := Array (Option Value)

def valuesBy (read : Nat → StateM Known (Value × List Nat)) :
    List Nat → StateM Known (List Value × List Nat)
  | [] => return ([], [])
  | id :: ids => do
    let (v, names) ← read id
    let (vs, more) ← valuesBy read ids
    return (v :: vs, names ++ more)

/-- The value of a node inside some collections, and the names of those that it refers back to. -/
def valueOf (pieces : Array (Option Piece)) :
    Nat → (around : List Nat) → Nat → StateM Known (Value × List Nat)
  | 0, _, _ => return (.null, [])
  | fuel + 1, around, id => do
    if id ∈ around then return (.again id, [id])
    match ((← get)[id]?).join with
    | some v => return (v, [])
    | none =>
      let values := valuesBy (valueOf pieces fuel (id :: around))
      let (v, names) ← match (pieces[id]?).join with
        | some (.whole v) => pure (v, [])
        | some (.list items) => do
          let (vs, names) ← values items
          pure (Value.list vs, names)
        | some (.set keys) => pure (Value.set keys, [])
        | some (.pairs entries) => do
          let (ks, names) ← values (entries.map (·.1))
          let (vs, more) ← values (entries.map (·.2))
          pure (Value.list (List.zipWith (fun k v => .list [k, v]) ks vs), names ++ more)
        | some (.mapping entries) => do
          let (vs, names) ← values (entries.map (·.2))
          pure (Value.mapping ((entries.map (·.1)).zip vs), names)
        | some .begun | none => pure (.null, [])
      if names = [] then
        modify fun known => known.setIfInBounds id (some v)
        return (v, [])
      else return (.knot id v, names.filter (· ≠ id))

end Assembly

def Graph.value (g : Graph) : Except Fault Value := do
  let size := g.nodes.size
  let making : Assembly.Assembling Unit := do
    Assembly.meet g.root
    Assembly.finishAll (size + 1)
  let (_, a) ← making.run { nodes := g.nodes, pieces := Array.replicate size none }
  let known : Assembly.Known := Array.replicate size none
  return ((Assembly.valueOf a.pieces (size + 1) [] g.root).run known).1.1

def ofReadable (r : Readable) : Except Fault Value := do
  match ← Graph.ofTokens (Token.scan r) with
  | none => return .null
  | some g => g.value

def ofText (text : String) : Except Fault Value := ofReadable (.ofText text)

def ofBytes (bytes : ByteArray) : Except Fault Value := ofReadable (.ofBytes bytes)

end ServiceClient.Yaml

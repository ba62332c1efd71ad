import ServiceClient.Double.Basic
import ServiceClient.Moment

namespace ServiceClient

inductive Value : Type
  | null : Value
  | bool (b : Bool) : Value
  | int (n : Int) : Value
  | number (x : Double) : Value
  | text (s : String) : Value
  | bytes (data : List UInt8) : Value
  | moment (m : Moment) : Value
  | list (items : List Value) : Value
  | set (items : List Value) : Value
  | mapping (entries : List (Value × Value)) : Value
  | knot (name : Nat) (v : Value) : Value
  | again (name : Nat) : Value
  deriving Inhabited

namespace Value

mutual

def fill (name : Nat) (whole : Value) : Value → Value
  | list items => list (fillItems name whole items)
  | set items => set (fillItems name whole items)
  | mapping entries => mapping (fillEntries name whole entries)
  | knot n v => if n = name then knot n v else knot n (fill name whole v)
  | again n => if n = name then whole else again n
  | v => v

def fillItems (name : Nat) (whole : Value) : List Value → List Value
  | [] => []
  | v :: vs => fill name whole v :: fillItems name whole vs

def fillEntries (name : Nat) (whole : Value) : List (Value × Value) → List (Value × Value)
  | [] => []
  | (k, v) :: entries => (k, fill name whole v) :: fillEntries name whole entries

end

/-- A value seen from outside: one that holds itself is found again in its places. -/
def opened : Value → Value
  | knot name v => fill name (knot name v) v
  | v => v

def entries? (v : Value) : Option (List (Value × Value)) :=
  match v.opened with
  | mapping entries => some entries
  | _ => none

def items? (v : Value) : Option (List Value) :=
  match v.opened with
  | list items | set items => some items
  | _ => none

def keyNumber? : Value → Option (Bool × Nat × Int)
  | bool b => some (false, if b then (1, 0) else (0, 0))
  | int n => some (n < 0, Double.reduced n.natAbs 0)
  | number (.finite negative m e) => some (negative && m ≠ 0, m, e)
  | _ => none

/-- Whether two keys are the same. Numbers are compared by their worth, all else by kind. -/
def sameKey (a b : Value) : Bool :=
  match a, b with
  | text s, text t => s = t
  | bytes s, bytes t => s = t
  | null, null => true
  | moment x, moment y => x.isSame y
  | number (.infinite x), number (.infinite y) => x = y
  | number (.undefined x), number (.undefined y) => x = y
  | _, _ => a.keyNumber?.isSome && a.keyNumber? = b.keyNumber?

def isKey : Value → Bool
  | list _ | set _ | mapping _ | knot .. | again _ => false
  | _ => true

/-- Puts an entry into a mapping: in the place of one with the same key, whose key stays, else at
the end. -/
def insert (key : Value) (value : α) : List (Value × α) → List (Value × α)
  | [] => [(key, value)]
  | (k, v) :: entries =>
    if k.sameKey key then (k, value) :: entries else (k, v) :: insert key value entries

def get? (name : String) : List (Value × Value) → Option Value
  | [] => none
  | (text s, v) :: entries => if s = name then some v else get? name entries
  | _ :: entries => get? name entries

def find? (key : Value) (entries : List (Value × α)) : Option α :=
  (entries.find? fun e => e.1.sameKey key).map (·.2)

end Value

end ServiceClient

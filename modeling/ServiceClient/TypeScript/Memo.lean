import ServiceClient.TypeScript.Mapping

/-!
Mapping with a memory. Every type that was mapped, also inside another, is remembered with its
expression; a type without expression is not, and fails anew.
-/

namespace ServiceClient.TypeScript

abbrev Memo := List (HostType × Mapped)

/-- A computation that may fail on a type and keeps its memory even then. -/
abbrev Remembering := ExceptT Unmappable (StateM Memo)

def remember (t : HostType) (x : Remembering Mapped) : Remembering Mapped := do
  let mapped ← x
  modify ((t, mapped) :: ·)
  return mapped

namespace Mapping

def mapRemembering (m : Mapping) (t : HostType) : Remembering Mapped := do
  match (← get).lookup t with
  | some mapped => return mapped
  | none => remember t <| match _h : m.rule t with
    | .atom mapped => pure mapped
    | .wrapper content => m.mapRemembering content
    | .sequence element => Mapped.array <$> m.mapRemembering element
    | .dictionary key value => m.mapRemembering key *> Mapped.indexed <$> m.mapRemembering value
    | .unmappable fault => throw ⟨t.toNotation, fault⟩
termination_by t
decreasing_by all_goals exact sizeOf_lt_of_mem_contents (m := m) (by simp [_h, Rule.contents])

end Mapping

end ServiceClient.TypeScript

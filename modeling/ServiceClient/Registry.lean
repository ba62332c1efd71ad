import ServiceClient.HostType.Basic
import ServiceClient.Text.Order

namespace ServiceClient

structure Registry where
  models : List String := []
  deriving DecidableEq

namespace Registry

def isModel (r : Registry) (t : HostType) : Bool :=
  t.isModel || r.models.contains t.simpleName

def sortedNames (r : Registry) : List String := Text.sort r.models.eraseDups

@[simp] theorem mem_sortedNames {r : Registry} {name : String} :
    name ∈ r.sortedNames ↔ name ∈ r.models := by
  rw [sortedNames, (Text.sort_perm _).mem_iff, List.mem_eraseDups]

end Registry

end ServiceClient

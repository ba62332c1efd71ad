import ServiceClient.Descriptor
import ServiceClient.Registry

namespace ServiceClient

structure Snapshot where
  models : List String := []
  controllers : List Controller := []
  deriving DecidableEq

namespace Snapshot

def registry (s : Snapshot) : Registry := ⟨s.models.eraseDups⟩

def markModels (s : Snapshot) : Snapshot :=
  { s with controllers := s.controllers.map (·.markModels s.models) }

def methodCount (s : Snapshot) : Nat := (s.controllers.flatMap (·.exposed)).length

end Snapshot

end ServiceClient

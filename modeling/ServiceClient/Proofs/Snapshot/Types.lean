import ServiceClient.Snapshot.Basic

namespace ServiceClient

variable {f g : HostType → HostType}

def Parameter.mapTypes (f : HostType → HostType) (p : Parameter) : Parameter :=
  { p with type := f p.type }

namespace Method

def types (method : Method) : List HostType :=
  method.parameters.map (·.type) ++ [method.returnType]

def mapTypes (f : HostType → HostType) (method : Method) : Method :=
  { method with
    parameters := method.parameters.map (·.mapTypes f)
    returnType := f method.returnType }

theorem type_mem_types {method : Method} {p : Parameter} (hp : p ∈ method.parameters) :
    p.type ∈ method.types :=
  List.mem_append_left _ (List.mem_map_of_mem hp)

theorem returnType_mem_types (method : Method) : method.returnType ∈ method.types :=
  List.mem_append_right _ (List.mem_singleton_self _)

theorem types_mapTypes (method : Method) : (method.mapTypes f).types = method.types.map f := by
  rw [types, types, mapTypes, List.map_append, List.map_map, List.map_map]
  rfl

theorem mapTypes_mapTypes (method : Method) :
    (method.mapTypes f).mapTypes g = method.mapTypes (g ∘ f) := by
  simp only [mapTypes, List.map_map]
  rfl

end Method

namespace Controller

def types (c : Controller) : List HostType := c.methods.flatMap (·.types)

def mapTypes (f : HostType → HostType) (c : Controller) : Controller :=
  { c with methods := c.methods.map (·.mapTypes f) }

theorem types_mapTypes (c : Controller) : (c.mapTypes f).types = c.types.map f := by
  rw [types, types, mapTypes, List.flatMap_map, List.map_flatMap]
  simp only [Method.types_mapTypes]

theorem mapTypes_mapTypes (c : Controller) : (c.mapTypes f).mapTypes g = c.mapTypes (g ∘ f) := by
  simp only [mapTypes, List.map_map, Function.comp_def, Method.mapTypes_mapTypes]

end Controller

namespace Snapshot

def types (s : Snapshot) : List HostType := s.controllers.flatMap (·.types)

def mapTypes (f : HostType → HostType) (s : Snapshot) : Snapshot :=
  { s with controllers := s.controllers.map (·.mapTypes f) }

theorem types_mapTypes (s : Snapshot) : (s.mapTypes f).types = s.types.map f := by
  rw [types, types, mapTypes, List.flatMap_map, List.map_flatMap]
  simp only [Controller.types_mapTypes]

theorem mapTypes_mapTypes (s : Snapshot) : (s.mapTypes f).mapTypes g = s.mapTypes (g ∘ f) := by
  simp only [mapTypes, List.map_map, Function.comp_def, Controller.mapTypes_mapTypes]

theorem markModels_eq_mapTypes (s : Snapshot) :
    s.markModels = s.mapTypes (HostType.markModels s.models) := rfl

end Snapshot

end ServiceClient

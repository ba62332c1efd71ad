import ServiceClient.Proofs.Pointwise
import ServiceClient.Snapshot.Basic

namespace ServiceClient

namespace HostType

mutual

def unqualified : HostType → HostType
  | ⟨name, arguments, isModel⟩ =>
    ⟨simpleName ⟨name, arguments, isModel⟩, unqualifiedAll arguments, isModel⟩

def unqualifiedAll : List HostType → List HostType
  | [] => []
  | a :: as => a.unqualified :: unqualifiedAll as

end

theorem unqualifiedAll_eq_map (as : List HostType) : unqualifiedAll as = as.map unqualified := by
  induction as with
  | nil => rw [unqualifiedAll, List.map_nil]
  | cons a as ih => rw [unqualifiedAll, List.map_cons, ih]

theorem unqualified_eq (t : HostType) :
    t.unqualified = ⟨t.simpleName, t.arguments.map unqualified, t.isModel⟩ := by
  rw [← unqualifiedAll_eq_map]
  cases t
  rw [unqualified]

variable {t t' : HostType}

theorem unqualified_eq_iff :
    t.unqualified = t'.unqualified ↔ t.simpleName = t'.simpleName ∧ t.isModel = t'.isModel ∧
      List.Forall₂ (fun a a' => a.unqualified = a'.unqualified) t.arguments t'.arguments := by
  rw [unqualified_eq t, unqualified_eq t', mk.injEq, Pointwise.map_eq_map_iff,
    and_comm (a := List.Forall₂ ..)]

end HostType

namespace Parameter

def unqualified (p : Parameter) : Parameter := { p with type := p.type.unqualified }

@[simp] theorem name_unqualified (p : Parameter) : p.unqualified.name = p.name := rfl

@[simp] theorem type_unqualified (p : Parameter) : p.unqualified.type = p.type.unqualified := rfl

end Parameter

namespace Method

def unqualified (method : Method) : Method :=
  { method with
    parameters := method.parameters.map (·.unqualified)
    returnType := method.returnType.unqualified }

variable (method : Method)

@[simp] theorem name_unqualified : method.unqualified.name = method.name := rfl

@[simp] theorem returnType_unqualified :
    method.unqualified.returnType = method.returnType.unqualified := rfl

@[simp] theorem resolvedVerb_unqualified :
    method.unqualified.resolvedVerb = method.resolvedVerb := rfl

end Method

namespace Controller

def unqualified (c : Controller) : Controller :=
  { c with methods := c.methods.map (·.unqualified) }

@[simp] theorem name_unqualified (c : Controller) : c.unqualified.name = c.name := rfl

@[simp] theorem exposed_unqualified (c : Controller) :
    c.unqualified.exposed = c.exposed.map (·.unqualified) := by
  rw [exposed, unqualified, List.filter_map]
  rfl

end Controller

namespace Snapshot

def unqualified (snapshot : Snapshot) : Snapshot :=
  { snapshot with controllers := snapshot.controllers.map (·.unqualified) }

@[simp] theorem registry_unqualified (snapshot : Snapshot) :
    snapshot.unqualified.registry = snapshot.registry := rfl

end Snapshot

end ServiceClient

import ServiceClient.HostType.Basic

namespace ServiceClient.HostType

@[elab_as_elim]
theorem inductionOn {motive : HostType → Prop} (t : HostType)
    (step : ∀ t, (∀ a ∈ t.arguments, motive a) → motive t) : motive t := by
  obtain ⟨name, arguments, isModel⟩ := t
  refine step _ fun a ha => ?_
  have smaller : sizeOf a < sizeOf arguments := List.sizeOf_lt_of_mem ha
  exact inductionOn a step

mutual

def nodes : HostType → List HostType
  | ⟨name, arguments, isModel⟩ => ⟨name, arguments, isModel⟩ :: allNodes arguments

def allNodes : List HostType → List HostType
  | [] => []
  | a :: as => a.nodes ++ allNodes as

end

theorem allNodes_eq_flatMap (as : List HostType) : allNodes as = as.flatMap nodes := by
  induction as with
  | nil => rfl
  | cons a as ih => rw [allNodes, ih, List.flatMap_cons]

theorem nodes_eq (t : HostType) : t.nodes = t :: t.arguments.flatMap nodes := by
  rw [← allNodes_eq_flatMap]
  cases t
  rw [nodes]

theorem mem_allNodes {u : HostType} {as : List HostType} :
    u ∈ allNodes as ↔ ∃ a ∈ as, u ∈ a.nodes := by
  induction as with
  | nil => simp [allNodes]
  | cons a as ih => simp [allNodes, ih]

theorem mem_nodes_self (t : HostType) : t ∈ t.nodes := by
  cases t
  rw [nodes]
  exact List.mem_cons_self

theorem mem_nodes_of_mem_arguments {t a u : HostType} (ha : a ∈ t.arguments) (hu : u ∈ a.nodes) :
    u ∈ t.nodes := by
  cases t
  rw [nodes]
  exact List.mem_cons_of_mem _ (mem_allNodes.2 ⟨a, ha, hu⟩)

end ServiceClient.HostType

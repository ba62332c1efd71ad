import ServiceClient.Proofs.HostType.Nodes
import ServiceClient.Proofs.Registry
import ServiceClient.TypeScript.Mapping

namespace ServiceClient.TypeScript.Mapping

theorem map_eq (m : Mapping) (t : HostType) :
    m.map t = match m.rule t with
      | .atom mapped => .ok mapped
      | .wrapper content => m.map content
      | .sequence element => do return (← m.map element).array
      | .dictionary key value => do
        let _ ← m.map key
        return (← m.map value).indexed
      | .unmappable fault => .error ⟨t.toNotation, fault⟩ := by
  rw [map]
  split <;> simp only [*]

structure AgreeAt (m m' : Mapping) (t : HostType) : Prop where
  override : m.overrides.lookup t.simpleName = m'.overrides.lookup t.simpleName
  model : m.registry.isModel t = m'.registry.isModel t

theorem AgreeAt.rule {m m' : Mapping} {t : HostType} (h : AgreeAt m m' t) :
    m.rule t = m'.rule t := by
  have override : m.override? t = m'.override? t := by rw [override?, override?, h.override]
  have model : m.model? t = m'.model? t := by rw [model?, model?, h.model]
  simp only [Mapping.rule, cases, List.findSome?_cons, override, model]

def AgreeWithin (m m' : Mapping) (t : HostType) : Prop := ∀ u ∈ t.nodes, AgreeAt m m' u

namespace AgreeWithin

variable {m m' : Mapping} {t : HostType} (h : AgreeWithin m m' t)
include h

theorem rule : m'.rule t = m.rule t := (h t t.mem_nodes_self).rule.symm

theorem contents : ∀ content ∈ (m.rule t).contents, AgreeWithin m m' content :=
  fun _ hcontent u hu =>
    h u (HostType.mem_nodes_of_mem_arguments (m.contents_rule_subset t hcontent) hu)

theorem map : m.map t = m'.map t := by
  induction t using map.induct m with
  | case1 t mapped hrule => rw [map_eq m t, map_eq m' t, h.rule, hrule]
  | case2 t content hrule ih =>
    have inner := h.contents
    rw [hrule, Rule.contents, List.forall_mem_singleton] at inner
    rw [map_eq m t, map_eq m' t, h.rule, hrule]
    exact ih inner
  | case3 t element hrule ih =>
    have inner := h.contents
    rw [hrule, Rule.contents, List.forall_mem_singleton] at inner
    rw [map_eq m t, map_eq m' t, h.rule, hrule]
    simp only [ih inner]
  | case4 t key value hrule ihKey ihValue =>
    have inner := h.contents
    rw [hrule, Rule.contents, List.forall_mem_cons, List.forall_mem_singleton] at inner
    rw [map_eq m t, map_eq m' t, h.rule, hrule]
    simp only [ihKey inner.1, ihValue inner.2]
  | case5 t fault hrule => rw [map_eq m t, map_eq m' t, h.rule, hrule]

end AgreeWithin

theorem map_congr {m m' : Mapping} (registry : m.registry.Same m'.registry)
    (overrides : m.overrides = m'.overrides) (t : HostType) : m.map t = m'.map t :=
  AgreeWithin.map fun u _ => ⟨by rw [overrides], registry.isModel u⟩

end ServiceClient.TypeScript.Mapping

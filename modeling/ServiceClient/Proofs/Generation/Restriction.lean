import ServiceClient.Proofs.Generation.Conservation

namespace ServiceClient

def Snapshot.restrict (p : Controller → Bool) (snapshot : Snapshot) : Snapshot :=
  { snapshot with controllers := snapshot.controllers.filter p }

def Summary.plus (a b : Summary) : Summary where
  controllers := a.controllers + b.controllers
  methodsProcessed := a.methodsProcessed + b.methodsProcessed
  methodsEmitted := a.methodsEmitted + b.methodsEmitted
  methodsSkipped := a.methodsSkipped + b.methodsSkipped

namespace Generation

variable (s : Settings) (snapshot : Snapshot) (p : Controller → Bool)

theorem inNameOrder_restrict :
    inNameOrder (snapshot.restrict p) = (inNameOrder snapshot).filter p :=
  (Text.filter_sortByName p Controller.name snapshot.controllers).symm

theorem kept_restrict : kept s (snapshot.restrict p) = (kept s snapshot).filter p := by
  rw [kept, kept, inNameOrder_restrict, List.filter_comm]

theorem inResourceOrder_restrict :
    inResourceOrder s (snapshot.restrict p) = (inResourceOrder s snapshot).filter p := by
  rw [inResourceOrder, inResourceOrder, kept_restrict, Text.filter_sortByName]

theorem diagnostics_restrict (q : String → Bool) :
    (assembled s (snapshot.restrict fun c => q c.name)).diagnostics =
      (assembled s snapshot).diagnostics.filter fun d => q d.controller := by
  have own (c : Controller) (d : Diagnostic) (hd : d ∈ diagnosticsOf (mapping s snapshot) s c) :
      d.controller = c.name := controller_of_mem_diagnosticsOf hd
  have parts := filter_flatMap_of_key own q (inNameOrder snapshot)
  rw [← inNameOrder_restrict] at parts
  exact parts.symm

theorem length_flatMap_filter {f : α → List β} (as : List α) (p : α → Bool) :
    (as.flatMap f).length =
      ((as.filter p).flatMap f).length + ((as.filter (!p ·)).flatMap f).length := by
  rw [← List.length_append, ← List.flatMap_append]
  exact ((List.filter_append_perm p as).symm.flatMap_right f).length_eq

theorem summary_restrict :
    (assembled s snapshot).summary = (assembled s (snapshot.restrict p)).summary.plus
      (assembled s (snapshot.restrict (!p ·))).summary := by
  have controllers : snapshot.controllers.length =
      (snapshot.controllers.filter p).length + (snapshot.controllers.filter (!p ·)).length := by
    rw [← List.length_append]
    exact (List.filter_append_perm p _).symm.length_eq
  have processed : snapshot.methodCount =
      (snapshot.restrict p).methodCount + (snapshot.restrict (!p ·)).methodCount :=
    length_flatMap_filter snapshot.controllers p
  have emitted : ((groupings s snapshot).flatMap (·.entries)).length =
      ((groupings s (snapshot.restrict p)).flatMap (·.entries)).length +
        ((groupings s (snapshot.restrict (!p ·))).flatMap (·.entries)).length := by
    simp only [groupings, kept_restrict, List.flatMap_map]
    exact length_flatMap_filter (kept s snapshot) p
  have part := emitted_le_processed s (snapshot.restrict p)
  have rest := emitted_le_processed s (snapshot.restrict (!p ·))
  simp only [assembled, Summary.plus, Summary.mk.injEq]
  refine ⟨controllers, processed, emitted, ?_⟩
  omega

end Generation

end ServiceClient

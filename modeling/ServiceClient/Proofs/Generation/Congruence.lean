import ServiceClient.Proofs.Generation.Plain
import ServiceClient.Proofs.Pointwise

namespace ServiceClient.Generation

open TypeScript

structure SameNames (c c' : Controller) : Prop where
  name : c.name = c'.name
  methods : c.exposed.map (·.name) = c'.exposed.map (·.name)

namespace SameNames

variable {s : Settings} {c c' : Controller} (h : SameNames c c')
include h

theorem folded :
    c.exposed.map (fun method => Text.fold method.name) =
      c'.exposed.map fun method => Text.fold method.name := by
  have images := congrArg (List.map Text.fold) h.methods
  rw [List.map_map, List.map_map] at images
  exact images

theorem isDropped : IsDropped s c ↔ IsDropped s c' := by
  rw [IsDropped, IsDropped, h.folded]

theorem duplicates (policy : DuplicatePolicy) :
    Generation.duplicates policy c = Generation.duplicates policy c' := by
  rw [Generation.duplicates, Generation.duplicates, h.name, Text.map_sortByName_self,
    Text.map_sortByName_self, h.methods]

theorem resourceName (suffix : String) : c.resourceName suffix = c'.resourceName suffix := by
  rw [Controller.resourceName, Controller.resourceName, h.name]

end SameNames

section Snapshots

variable {s : Settings} {snapshot snapshot' : Snapshot} {R : Controller → Controller → Prop}
  (h : List.Forall₂ R snapshot.controllers snapshot'.controllers)
  (same : ∀ c c', R c c' → SameNames c c')
include h same

theorem methodCount_eq_of_sameNames : snapshot.methodCount = snapshot'.methodCount := by
  have names : snapshot.controllers.map (fun c => c.exposed.map (·.name)) =
      snapshot'.controllers.map fun c => c.exposed.map (·.name) :=
    Pointwise.map_eq h fun c c' r => (same c c' r).methods
  have length := congrArg (fun names => names.flatten.length) names
  simpa [Snapshot.methodCount, List.flatMap_def, List.length_flatten, Function.comp_def]
    using length

theorem forall₂_inNameOrder : List.Forall₂ R (inNameOrder snapshot) (inNameOrder snapshot') :=
  Text.forall₂_sortByName h fun c c' r => (same c c' r).name

theorem forall₂_kept : List.Forall₂ R (kept s snapshot) (kept s snapshot') := by
  refine List.rel_filter ?_ (forall₂_inNameOrder h same)
  intro c c' r
  simp [(same c c' r).isDropped]

theorem groupings_eq_of_sameNames
    (written : ∀ c c', R c c' →
      groupingOf (mapping s snapshot) s c = groupingOf (mapping s snapshot') s c') :
    groupings s snapshot = groupings s snapshot' :=
  Pointwise.map_eq (forall₂_kept h same) written

theorem flatMap_inNameOrder_of_sameNames {γ : Type} {f g : Controller → List γ}
    (told : ∀ c c', R c c' → f c = g c') :
    (inNameOrder snapshot).flatMap f = (inNameOrder snapshot').flatMap g := by
  rw [List.flatMap_def, List.flatMap_def]
  exact congrArg List.flatten (Pointwise.map_eq (forall₂_inNameOrder h same) told)

end Snapshots

structure Alike (m m' : Mapping) (s : Settings) (c c' : Controller) : Prop where
  name : c.name = c'.name
  names : c.exposed.map (·.name) = c'.exposed.map (·.name)
  outcomes : methodOutcomes m s c = methodOutcomes m' s c'

namespace Alike

variable {m m' : Mapping} {s : Settings} {c c' : Controller} (h : Alike m m' s c c')
include h

theorem sameNames : SameNames c c' := ⟨h.name, h.names⟩

theorem grouping : groupingOf m s c = groupingOf m' s c' := by
  rw [groupingOf, groupingOf, h.outcomes, h.sameNames.resourceName]

theorem diagnostics : diagnosticsOf m s c = diagnosticsOf m' s c' := by
  rw [diagnosticsOf, diagnosticsOf, h.sameNames.duplicates, h.outcomes]
  simp only [h.sameNames.isDropped]

end Alike

variable {s : Settings} {snapshot snapshot' : Snapshot}

theorem generate_eq_of_alike (models : snapshot.models = snapshot'.models)
    (h : List.Forall₂ (Alike (mapping s snapshot) (mapping s snapshot') s) snapshot.controllers
      snapshot'.controllers) :
    generate s snapshot = generate s snapshot' := by
  have registry : snapshot.registry = snapshot'.registry := by
    rw [Snapshot.registry, Snapshot.registry, models]
  have written : groupings s snapshot = groupings s snapshot' :=
    groupings_eq_of_sameNames h (fun _ _ r => r.sameNames) fun _ _ r => r.grouping
  have reported : (inNameOrder snapshot).flatMap (diagnosticsOf (mapping s snapshot) s) =
      (inNameOrder snapshot').flatMap (diagnosticsOf (mapping s snapshot') s) :=
    flatMap_inNameOrder_of_sameNames h (fun _ _ r => r.sameNames) fun _ _ r => r.diagnostics
  rw [generate_eq, generate_eq, registry, assembled, assembled, registry, written, reported,
    h.length_eq, methodCount_eq_of_sameNames h fun _ _ r => r.sameNames]

end ServiceClient.Generation

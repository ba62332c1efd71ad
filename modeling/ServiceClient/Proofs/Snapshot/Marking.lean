import ServiceClient.Proofs.HostType.Marking
import ServiceClient.Proofs.Snapshot.Types

namespace ServiceClient.Snapshot

theorem withoutMarks_markModels (s : Snapshot) :
    s.markModels.mapTypes HostType.withoutMarks = s.mapTypes HostType.withoutMarks := by
  have bare : HostType.withoutMarks ∘ HostType.markModels s.models = HostType.withoutMarks :=
    funext (HostType.withoutMarks_markModels s.models)
  rw [markModels_eq_mapTypes, mapTypes_mapTypes, bare]

theorem markModels_markModels (s : Snapshot) : s.markModels.markModels = s.markModels := by
  have again : HostType.markModels s.models ∘ HostType.markModels s.models =
      HostType.markModels s.models :=
    funext fun t => HostType.markModels_markModels t fun _ => (or_self_iff ..).symm
  have models : s.markModels.models = s.models := rfl
  rw [markModels_eq_mapTypes s.markModels, models, markModels_eq_mapTypes s, mapTypes_mapTypes,
    again]

/-- To mark a type with one set of names after another is to mark it with both, and marking changes
nothing but the marks: of each type inside it, one that is no model yet becomes one if its simple
name is among the names. In a snapshot every type is marked so with the names of the models, also
those of methods that are not exposed; everything else stays, and to mark it again changes
nothing. -/
theorem markModels_flags :
    (∀ (t : HostType) (names names' both : List String),
      (∀ name, name ∈ both ↔ name ∈ names ∨ name ∈ names') →
        (t.markModels names').markModels names = t.markModels both) ∧
    (∀ (t : HostType) (names : List String),
      (t.markModels names).withoutMarks = t.withoutMarks ∧
      List.Forall₂ (HostType.Marked names) t.nodes (t.markModels names).nodes) ∧
    ∀ s : Snapshot,
      s.markModels.types = s.types.map (·.markModels s.models) ∧
      s.markModels.mapTypes HostType.withoutMarks = s.mapTypes HostType.withoutMarks ∧
      s.markModels.markModels = s.markModels := by
  refine ⟨?_, ?_, ?_⟩
  · intro t names names' both union
    exact HostType.markModels_markModels t union
  · intro t names
    exact ⟨HostType.withoutMarks_markModels names t, HostType.forall₂_marked names t⟩
  · intro s
    exact ⟨types_mapTypes s, withoutMarks_markModels s, markModels_markModels s⟩

theorem markModels_flags_hidden :
    let page : HostType := ⟨"App.Page`1", [⟨"User", [], false⟩], false⟩
    let s : Snapshot := ⟨["User"], [⟨"UserController",
      [⟨"Find", [⟨"by", ⟨"User", [], false⟩⟩], page, none, "private", true, none⟩]⟩]⟩
    (page.markModels ["User"]).markModels ["Page", "User"] = page.markModels ["User", "Page"] ∧
    s.markModels.types = [⟨"User", [], true⟩, ⟨"App.Page`1", [⟨"User", [], true⟩], false⟩] := by
  intro page s
  refine ⟨markModels_flags.1 page ["Page", "User"] ["User"] _ fun name => ?_, ?_⟩
  · simp
    tauto
  · rw [(markModels_flags.2.2 s).1]
    decide +kernel

end ServiceClient.Snapshot

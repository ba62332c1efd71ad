import ServiceClient.Proofs.Document
import ServiceClient.Proofs.Text.Order
import ServiceClient.Proofs.Validation.Accepted
import ServiceClient.Snapshot.Reading

namespace ServiceClient.Snapshot

open Validation Validation.Checked

structure Valid (snapshot : Snapshot) : Prop where
  models : snapshot.models.Nodup
  controllers : (snapshot.controllers.map (·.name)).Nodup

theorem nodup_of_repeated {names : List String} (h : repeated names = []) : names.Nodup := by
  rw [List.nodup_iff_count_le_one]
  intro name
  by_contra more
  have mem : name ∈ names := List.count_pos_iff.1 (by omega)
  have again : name ∈ repeated names := by
    rw [repeated, (Text.sort_perm _).mem_iff, List.mem_eraseDups, List.mem_filter]
    exact ⟨mem, by simpa using more⟩
  rw [h] at again
  contradiction

theorem nodup_of_distinct {α : Type} {what : String} {name : α → String} {items items' : List α}
    (h : distinct what name items = .accepted items') : (items'.map name).Nodup := by
  rw [distinct] at h
  split at h
  · next unique =>
    cases h
    exact nodup_of_repeated unique
  · contradiction

theorem nodup_of_field {α : Type} {es : List (Value × Value)} {field what : String}
    {name : α → String} {read : Value → Checked (List α)} {items : List α}
    (h : fieldOr es field [] (fun v => (read v).andThen (distinct what name)) = .accepted items) :
    (items.map name).Nodup := by
  obtain rfl | ⟨v, h⟩ := eq_or_accepted_of_fieldOr h
  · exact List.nodup_nil
  · obtain ⟨_, _, unique⟩ := andThen_eq_accepted_iff.1 h
    exact nodup_of_distinct unique

theorem valid_of_ofValue {v : Value} {snapshot : Snapshot} (h : ofValue v = .accepted snapshot) :
    snapshot.Valid := by
  obtain ⟨es, _, h⟩ := andThen_eq_accepted_iff.1 h
  obtain ⟨_, controllers, made, unique, rfl⟩ := seq_eq_accepted_iff.1 (eq_accepted_of_closed h)
  obtain ⟨models, uniqueModels, rfl⟩ := map_eq_accepted_iff.1 made
  refine ⟨?_, nodup_of_field unique⟩
  have names := nodup_of_field uniqueModels
  rwa [List.map_id] at names

theorem Valid.markModels {snapshot : Snapshot} (h : snapshot.Valid) :
    snapshot.markModels.Valid := by
  refine ⟨h.models, ?_⟩
  have names : snapshot.markModels.controllers.map (·.name) =
      snapshot.controllers.map (·.name) := by
    rw [Snapshot.markModels, List.map_map]
    rfl
  rw [names]
  exact h.controllers

theorem exists_raw_of_ofSource {source : String} {v : Value} {snapshot : Snapshot}
    (h : ofSource source v = .ok snapshot) :
    ∃ raw, ofValue v = .accepted raw ∧ raw.markModels = snapshot := by
  rw [ofSource, Outcome.mapError_eq_ok_iff, toExcept_eq_ok_iff] at h
  exact map_eq_accepted_iff.1 h

theorem valid_of_ofSource {source : String} {v : Value} {snapshot : Snapshot}
    (h : ofSource source v = .ok snapshot) : snapshot.Valid := by
  obtain ⟨raw, accepted, rfl⟩ := exists_raw_of_ofSource h
  exact (valid_of_ofValue accepted).markModels

theorem eq_of_checkSuffix {path : Path} {suffix : String} {snapshot snapshot' : Snapshot}
    (h : checkSuffix path suffix snapshot = .ok snapshot') : snapshot' = snapshot := by
  rw [checkSuffix] at h
  split at h
  · exact (Except.ok.inj h).symm
  · contradiction

theorem valid_of_load {path : Path} {suffix : String} {content : Except FileError ByteArray}
    {snapshot : Snapshot} (h : load path suffix content = .ok snapshot) : snapshot.Valid := by
  obtain ⟨v, _, h⟩ := Document.exists_value_of_load h
  split at h
  · obtain ⟨read, hread, h⟩ := Outcome.bind_eq_ok_iff.1 h
    rw [eq_of_checkSuffix h]
    exact valid_of_ofSource hread
  · contradiction

theorem endsWith_of_checkSuffix {path : Path} {suffix : String} {snapshot snapshot' : Snapshot}
    (h : checkSuffix path suffix snapshot = .ok snapshot') :
    ∀ c ∈ snapshot'.controllers, Text.endsWith suffix c.name = true := by
  rw [checkSuffix] at h
  split at h
  · next all =>
    obtain rfl := Except.ok.inj h
    intro c hc
    simpa using List.filter_eq_nil_iff.1 all c.name (List.mem_map_of_mem hc)
  · contradiction

theorem endsWith_of_load {path : Path} {suffix : String} {content : Except FileError ByteArray}
    {snapshot : Snapshot} (h : load path suffix content = .ok snapshot) :
    ∀ c ∈ snapshot.controllers, Text.endsWith suffix c.name = true := by
  obtain ⟨v, _, h⟩ := Document.exists_value_of_load h
  split at h
  · obtain ⟨_, _, h⟩ := Outcome.bind_eq_ok_iff.1 h
    exact endsWith_of_checkSuffix h
  · contradiction

end ServiceClient.Snapshot

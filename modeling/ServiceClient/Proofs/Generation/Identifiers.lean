import ServiceClient.Proofs.Generation.Members
import ServiceClient.Proofs.Naming.Identifiers

namespace ServiceClient

open Naming TypeScript

theorem Naming.IsHostName.of_isPrefix {name start : String} (h : IsHostName name)
    (filled : start ≠ "") (hstart : start.toList <+: name.toList) : IsHostName start := by
  obtain ⟨rest, whole⟩ := hstart
  obtain ⟨first, all⟩ := h
  rw [← whole] at first all
  rw [List.all_append, Bool.and_eq_true] at all
  refine ⟨?_, all.1⟩
  rwa [List.head?_append_of_ne_nil] at first
  simpa using filled

theorem Controller.isHostName_resourceName {c : Controller} (h : IsHostName c.name)
    (suffix : String) : IsHostName (c.resourceName suffix) := by
  rw [resourceName]
  split
  · exact h
  · exact h
  · next resource filled dropped =>
    rw [Text.dropSuffix?] at dropped
    split at dropped
    · refine h.of_isPrefix (fun empty => filled (empty ▸ rfl)) ?_
      rw [← Option.some.inj dropped, String.toList_ofList]
      exact List.take_prefix _ _
    · contradiction

namespace Generation

/-- A name of the host becomes an identifier just if a letter follows the underscores that it begins
with. So it is with the property that the module has for a controller of this name, which may lose a
suffix before that, and with those for methods of this name. -/
theorem generate_identifiers {name : String} (host : IsHostName name) :
    (isIdentifier (camelize name) = true ↔ LeadsWithLetter name) ∧
    ∀ (s : Settings) (snapshot : Snapshot) (g : Generation), s.isEnabled = true →
      snapshot.Valid → generate s snapshot = .ok g →
      (∃ listing, Listed s snapshot g listing) ∧
      ∀ listing, Listed s snapshot g listing → ∀ p ∈ listing,
        (p.1.name = name → (isIdentifier p.2.memberName = true ↔
          LeadsWithLetter (p.1.resourceName s.controllerSuffix))) ∧
        ∀ e ∈ p.2.entries, e.sourceName = name →
          (isIdentifier e.name = true ↔ LeadsWithLetter name) := by
  refine ⟨host.isIdentifier_camelize_iff, ?_⟩
  intro s snapshot g enabled valid h
  obtain rfl := eq_assembled_of_generate enabled h
  refine ⟨⟨_, listed valid⟩, fun listing hlisting p hp => ⟨fun own => ?_, fun e he own => ?_⟩⟩
  · rw [← own] at host
    rw [memberName_of_listed hlisting hp]
    exact (Controller.isHostName_resourceName host _).isIdentifier_camelize_iff
  · obtain ⟨_, account⟩ := hlisting.accounts p hp
    rw [account.name_eq he, own]
    exact host.isIdentifier_camelize_iff

theorem generate_identifiers_underscores :
    let users : Controller := { name := "User_Controller", methods := [
      { name := "Get__All" }, { name := "_2fa", verb := some .get }] }
    let s : Settings := { basePath := "/api" }
    let snapshot : Snapshot := ⟨[], [users]⟩
    ∃ g listing, generate s snapshot = .ok g ∧ Listed s snapshot g listing ∧
      ∀ p ∈ listing, isIdentifier p.2.memberName = true ∧
        ∀ e ∈ p.2.entries, (isIdentifier e.name = true ↔ e.sourceName = "Get__All") := by
  intro users s snapshot
  have valid : snapshot.Valid := ⟨by decide, by decide⟩
  have returns : generate s snapshot = .ok (assembled s snapshot) :=
    generate_of_no_fault rfl (by decide +kernel)
  have names : ∀ method ∈ users.exposed, IsHostName method.name ∧
      (LeadsWithLetter method.name ↔ method.name = "Get__All") := by
    decide +kernel
  have owner : IsHostName users.name := by decide +kernel
  obtain ⟨-, runs⟩ := generate_identifiers owner
  obtain ⟨⟨listing, listed⟩, members⟩ := runs s snapshot _ rfl valid returns
  refine ⟨_, listing, returns, listed, fun p hp => ?_⟩
  have own : p.1 = users := List.mem_singleton.1 (kept_of_listed listed hp).1
  have member := (members listing listed p hp).1 (own ▸ rfl)
  rw [own] at member
  refine ⟨member.2 (by decide +kernel), fun e he => ?_⟩
  obtain ⟨_, account⟩ := listed.accounts p hp
  obtain ⟨method, hmethod, name⟩ := account.exists_method he
  obtain ⟨host, leads⟩ := names method (own ▸ hmethod)
  obtain ⟨-, runsEntry⟩ := generate_identifiers host
  have entry := ((runsEntry s snapshot _ rfl valid returns).2 listing listed p hp).2 e he name
  rw [entry, leads, name]

/-- Names of the host that begin with a digit, or are empty, when their underscores are lost. -/
theorem camelize_not_identifier :
    (IsHostName "_2fa" ∧ camelize "_2fa" = "2fa" ∧ isIdentifier (camelize "_2fa") = false) ∧
    IsHostName "_" ∧ camelize "_" = "" ∧ isIdentifier (camelize "_") = false := by
  decide +kernel

end Generation

end ServiceClient

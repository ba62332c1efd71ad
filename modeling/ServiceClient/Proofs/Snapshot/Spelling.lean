import ServiceClient.Proofs.HostType.Spelling
import ServiceClient.Proofs.Outcome
import ServiceClient.Proofs.Validation.Replacement
import ServiceClient.Snapshot.Reading

namespace ServiceClient

open Validation Validation.Checked

/-- A value, or another spelling of the type that it spells, neither of them too deep. -/
def HostType.Respelled (w w' : Value) : Prop :=
  w = w' ∨ ∃ t, Spelling maxNesting w t ∧ Spelling maxNesting w' t

theorem HostType.ofValue_respelled {w w' : Value} (h : Respelled w w') :
    ofValue w = ofValue w' := by
  rcases h with rfl | ⟨t, spelled, spelled'⟩
  · rfl
  · rw [ofValue_of_spelling spelled, ofValue_of_spelling spelled']

def Parameter.Respelled : Value → Value → Prop :=
  Replacements.Record [("type", HostType.Respelled)]

def Method.Respelled : Value → Value → Prop :=
  Replacements.Record
    [("parameters", ItemsReplaced Parameter.Respelled), ("return_type", HostType.Respelled)]

def Controller.Respelled : Value → Value → Prop :=
  Replacements.Record [("methods", ItemsReplaced Method.Respelled)]

/-- The data of a snapshot with the types of parameters and results in other spellings. -/
def Snapshot.Respelled : Value → Value → Prop :=
  Replacements.Record [("controllers", ItemsReplaced Controller.Respelled)]

section Respelled

variable {v v' : Value}

theorem Parameter.ofValue_respelled (h : Respelled v v') : ofValue v = ofValue v' := by
  refine Replacements.record_replaced h fun es es' h => ?_
  rw [Replacements.field_eq h "name" fun _ _ => congrArg _,
    Replacements.field_eq h "type" fun _ _ => HostType.ofValue_respelled]

theorem Method.ofValue_respelled (h : Respelled v v') : ofValue v = ofValue v' := by
  refine Replacements.record_replaced h fun es es' h => ?_
  rw [Replacements.field_eq h "name" fun _ _ => congrArg _,
    Replacements.fieldOr_eq h "parameters" fun _ _ items =>
      list_replaced items fun _ _ => Parameter.ofValue_respelled,
    Replacements.fieldOr_eq h "return_type" fun _ _ => HostType.ofValue_respelled,
    Replacements.fieldOr_eq h "verb" fun _ _ => congrArg _,
    Replacements.fieldOr_eq h "visibility" fun _ _ => congrArg _,
    Replacements.fieldOr_eq h "is_static" fun _ _ => congrArg _,
    Replacements.fieldOr_eq h "declaring_type" fun _ _ => congrArg _]

theorem Controller.ofValue_respelled (h : Respelled v v') : ofValue v = ofValue v' := by
  refine Replacements.record_replaced h fun es es' h => ?_
  rw [Replacements.field_eq h "name" fun _ _ => congrArg _,
    Replacements.fieldOr_eq h "methods" fun _ _ items =>
      list_replaced items fun _ _ => Method.ofValue_respelled]

theorem Snapshot.ofValue_respelled (h : Respelled v v') : ofValue v = ofValue v' := by
  refine Replacements.record_replaced h fun es es' h => ?_
  rw [Replacements.fieldOr_eq h "models" fun _ _ => congrArg _,
    Replacements.fieldOr_eq h "controllers" fun _ _ items =>
      congrArg (andThen · _) (list_replaced items fun _ _ => Controller.ofValue_respelled)]

end Respelled

section Accepted

variable {v w : Value}

theorem Parameter.accepted_fields {p : Parameter} (h : ofValue v = .accepted p) :
    ∃ es, v.entries? = some es ∧ field es "type" HostType.ofValue = .accepted p.type := by
  obtain ⟨es, opened, h⟩ := andThen_eq_accepted_iff.1 h
  obtain ⟨_, type, made, htype, rfl⟩ := seq_eq_accepted_iff.1 (eq_accepted_of_closed h)
  obtain ⟨name, _, rfl⟩ := map_eq_accepted_iff.1 made
  exact ⟨es, entries_eq_accepted_iff.1 opened, htype⟩

theorem Method.accepted_fields {m : Method} (h : ofValue v = .accepted m) :
    ∃ es, v.entries? = some es ∧
      fieldOr es "parameters" [] (list Parameter.ofValue) = .accepted m.parameters ∧
      fieldOr es "return_type" { name := "Void" } HostType.ofValue = .accepted m.returnType := by
  obtain ⟨es, opened, h⟩ := andThen_eq_accepted_iff.1 h
  obtain ⟨_, _, made, _, whole⟩ := seq_eq_accepted_iff.1 (eq_accepted_of_closed h)
  obtain ⟨_, _, made, _, toStatic⟩ := seq_eq_accepted_iff.1 made
  obtain ⟨_, _, made, _, toVisibility⟩ := seq_eq_accepted_iff.1 made
  obtain ⟨_, _, made, _, toVerb⟩ := seq_eq_accepted_iff.1 made
  obtain ⟨_, returnType, made, hreturnType, toResult⟩ := seq_eq_accepted_iff.1 made
  obtain ⟨_, parameters, made, hparameters, toParameters⟩ := seq_eq_accepted_iff.1 made
  obtain ⟨name, _, rfl⟩ := map_eq_accepted_iff.1 made
  subst toParameters toResult toVerb toVisibility toStatic whole
  exact ⟨es, entries_eq_accepted_iff.1 opened, hparameters, hreturnType⟩

theorem Controller.accepted_fields {c : Controller} (h : ofValue v = .accepted c) :
    ∃ es, v.entries? = some es ∧
      fieldOr es "methods" [] (list Method.ofValue) = .accepted c.methods := by
  obtain ⟨es, opened, h⟩ := andThen_eq_accepted_iff.1 h
  obtain ⟨_, methods, made, hmethods, rfl⟩ := seq_eq_accepted_iff.1 (eq_accepted_of_closed h)
  obtain ⟨name, _, rfl⟩ := map_eq_accepted_iff.1 made
  exact ⟨es, entries_eq_accepted_iff.1 opened, hmethods⟩

theorem Snapshot.accepted_fields {s : Snapshot} (h : ofValue v = .accepted s) :
    ∃ es, v.entries? = some es ∧
      fieldOr es "controllers" [] (fun v =>
        (list Controller.ofValue v).andThen (distinct "controller" Controller.name)) =
          .accepted s.controllers := by
  obtain ⟨es, opened, h⟩ := andThen_eq_accepted_iff.1 h
  obtain ⟨_, controllers, made, hcontrollers, rfl⟩ :=
    seq_eq_accepted_iff.1 (eq_accepted_of_closed h)
  obtain ⟨models, _, rfl⟩ := map_eq_accepted_iff.1 made
  exact ⟨es, entries_eq_accepted_iff.1 opened, hcontrollers⟩

def Method.HasType (v w : Value) : Prop :=
  v.HasField "return_type" w ∨ ∃ p, v.HasItem "parameters" p ∧ p.HasField "type" w

def Snapshot.HasType (v w : Value) : Prop :=
  ∃ c m, v.HasItem "controllers" c ∧ c.HasItem "methods" m ∧ Method.HasType m w

theorem Parameter.accepted_type {p : Parameter} (h : ofValue v = .accepted p)
    (place : v.HasField "type" w) : HostType.ofValue w = .accepted p.type := by
  obtain ⟨es, hes, htype⟩ := accepted_fields h
  obtain ⟨_, hes', hw⟩ := place
  cases hes.symm.trans hes'
  exact accepted_of_field htype hw

theorem Method.accepted_type {m : Method} (h : ofValue v = .accepted m) (place : HasType v w) :
    ∃ t, HostType.ofValue w = .accepted t := by
  obtain ⟨es, hes, hparameters, hreturnType⟩ := accepted_fields h
  rcases place with ⟨_, hes', hw⟩ | ⟨p, ⟨ps, items, ⟨_, hes', hps⟩, hitems, hp⟩, place⟩
  · cases hes.symm.trans hes'
    exact ⟨_, accepted_of_fieldOr hreturnType hw⟩
  · cases hes.symm.trans hes'
    obtain ⟨parameter, _, read⟩ := accepted_of_list (accepted_of_fieldOr hparameters hps) hitems hp
    exact ⟨_, Parameter.accepted_type read place⟩

theorem Controller.accepted_method {c : Controller} (h : ofValue v = .accepted c)
    (place : v.HasItem "methods" w) : ∃ m, Method.ofValue w = .accepted m := by
  obtain ⟨es, hes, hmethods⟩ := accepted_fields h
  obtain ⟨ms, items, ⟨_, hes', hms⟩, hitems, hm⟩ := place
  cases hes.symm.trans hes'
  obtain ⟨m, _, read⟩ := accepted_of_list (accepted_of_fieldOr hmethods hms) hitems hm
  exact ⟨m, read⟩

theorem Snapshot.accepted_controller {s : Snapshot} (h : ofValue v = .accepted s)
    (place : v.HasItem "controllers" w) : ∃ c, Controller.ofValue w = .accepted c := by
  obtain ⟨es, hes, hcontrollers⟩ := accepted_fields h
  obtain ⟨cs, items, ⟨_, hes', hcs⟩, hitems, hc⟩ := place
  cases hes.symm.trans hes'
  obtain ⟨_, read, _⟩ := andThen_eq_accepted_iff.1 (accepted_of_fieldOr hcontrollers hcs)
  obtain ⟨c, _, read⟩ := accepted_of_list read hitems hc
  exact ⟨c, read⟩

theorem Snapshot.accepted_type {s : Snapshot} (h : ofValue v = .accepted s) (place : HasType v w) :
    ∃ t, HostType.ofValue w = .accepted t := by
  obtain ⟨c, m, hc, hm, place⟩ := place
  obtain ⟨controller, read⟩ := accepted_controller h hc
  obtain ⟨method, read⟩ := Controller.accepted_method read hm
  exact Method.accepted_type read place

end Accepted

namespace Snapshot

def getAll (returnType : HostType) : Method := { name := "GetAll", returnType }

section Users

variable {w : Value} {t : HostType} (h : HostType.ofValue w = .accepted t)
include h

end Users

end Snapshot

end ServiceClient

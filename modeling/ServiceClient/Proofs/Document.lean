import ServiceClient.Document
import ServiceClient.Proofs.Outcome

namespace ServiceClient.Document

def value? (content : Except FileError ByteArray) : Option Value :=
  match content with
  | .error _ => none
  | .ok bytes => (Yaml.ofBytes bytes).toOption

theorem exists_value_of_load {ε α : Type} {unreadable malformed : ε}
    {content : Except FileError ByteArray} {use : Value → Except ε α} {a : α}
    (h : load unreadable malformed content use = .ok a) :
    ∃ v, value? content = some v ∧ use v = .ok a := by
  cases content with
  | error e => cases e <;> contradiction
  | ok bytes =>
    unfold load at h
    dsimp only at h
    rw [value?]
    generalize Yaml.ofBytes bytes = document at h
    cases document with
    | error fault => cases fault <;> contradiction
    | ok v => exact ⟨v, rfl, Outcome.mapError_eq_ok_iff.1 h⟩

/-- The fault of a document that no reader knows, whoever the reader is. -/
def fault? : Except FileError ByteArray → Option Yaml.Fault
  | .error .nullInName => some .outOfRange
  | .error _ => none
  | .ok bytes => match Yaml.ofBytes bytes with
    | .error .malformed | .ok _ => none
    | .error fault => some fault

/-- Whether a reader gives a result or fails with an error of its own. -/
def IsSettled {ε α : Type} (result : Except (Failure ε) α) : Prop :=
  (∃ a, result = .ok a) ∨ ∃ e, result = .error (.refused e)

section Load

variable {ε α : Type} {unreadable malformed : ε} {content : Except FileError ByteArray}
  {use : Value → Except ε α}

theorem load_cases (unreadable malformed : ε) (content : Except FileError ByteArray)
    (use : Value → Except ε α) :
    (∃ fault, fault? content = some fault ∧
      load unreadable malformed content use = .error (.fault fault)) ∨
    fault? content = none ∧ IsSettled (load unreadable malformed content use) := by
  cases content with
  | error e =>
    cases e with
    | nullInName => exact .inl ⟨_, rfl, rfl⟩
    | _ => exact .inr ⟨rfl, .inr ⟨_, rfl⟩⟩
  | ok bytes =>
    unfold load fault?
    dsimp only
    generalize Yaml.ofBytes bytes = document
    cases document with
    | error fault =>
      cases fault with
      | malformed => exact .inr ⟨rfl, .inr ⟨_, rfl⟩⟩
      | _ => exact .inl ⟨_, rfl, rfl⟩
    | ok v =>
      refine .inr ⟨rfl, ?_⟩
      cases h : use v with
      | error e => exact .inr ⟨e, by simp only [h]; rfl⟩
      | ok a => exact .inl ⟨a, by simp only [h]; rfl⟩

theorem load_of_fault {fault : Yaml.Fault} (h : fault? content = some fault) :
    load unreadable malformed content use = .error (.fault fault) := by
  obtain ⟨_, found, failed⟩ | ⟨nothing, _⟩ := load_cases unreadable malformed content use
  · cases h.symm.trans found
    exact failed
  · cases h.symm.trans nothing

theorem isSettled_load_iff :
    IsSettled (load unreadable malformed content use) ↔ fault? content = none := by
  obtain ⟨_, found, failed⟩ | ⟨nothing, settled⟩ := load_cases unreadable malformed content use
  · simp [IsSettled, found, failed]
  · exact iff_of_true settled nothing

end Load

theorem readable_of_undecodable {bytes : ByteArray}
    (short : bytes.size < Yaml.Readable.bytesAtOnce) (h : String.fromUTF8? bytes = none) :
    Yaml.Readable.ofBytes bytes = { text := [], fault := some .undecodable } := by
  rw [Yaml.Readable.ofBytes, h, Nat.div_eq_of_lt short]
  simp [Yaml.Readable.decoded, Yaml.Readable.joinLines, Yaml.Readable.before,
    Yaml.Readable.admitted]

theorem ofReadable_undecodable :
    Yaml.ofReadable { text := [], fault := some .undecodable } = .error .undecodable := by
  have fails : (match Yaml.ofReadable { text := [], fault := some .undecodable } with
      | .error fault => some fault
      | .ok _ => none) = some .undecodable := by
    decide +kernel
  generalize Yaml.ofReadable _ = document at fails
  cases document with
  | error => exact congrArg Except.error (Option.some.inj fails)
  | ok => contradiction

theorem fault?_of_undecodable {bytes : ByteArray} (short : bytes.size < Yaml.Readable.bytesAtOnce)
    (h : String.fromUTF8? bytes = none) : fault? (.ok bytes) = some .undecodable := by
  unfold fault?
  dsimp only
  rw [Yaml.ofBytes, readable_of_undecodable short h, ofReadable_undecodable]

end ServiceClient.Document

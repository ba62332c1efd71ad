import Mathlib.Tactic.SplitIfs
import ServiceClient.Proofs.Disk.Content
import ServiceClient.Proofs.Outcome

namespace ServiceClient.Disk

open FileSystem

variable {d : Disk} {p : Path} {bytes : ByteArray} {text : String} {error : FileError}

theorem follow_ne_nullInName (parts : List String) (here : Place) :
    d.follow here parts ≠ .error .nullInName := by
  induction parts generalizing here with
  | nil => simp [follow]
  | cons part parts ih =>
    rw [follow]
    split
    · simp
    · simp
    · split_ifs
      · simp
      · exact ih _

theorem makeOne_ne_nullInName (parts : List String) (here : Place) :
    d.makeOne here parts ≠ .error .nullInName := by
  intro h
  obtain lost | ⟨place, -, there⟩ := Outcome.bind_eq_error_iff.1 h
  · exact follow_ne_nullInName parts here lost
  · split at there <;> cases there

theorem unlessDirectory_eq_error {here : Place} {parts : List String} {error' : FileError}
    (h : d.unlessDirectory here parts error = .error error') : error = error' := by
  rw [unlessDirectory] at h
  split at h
  · cases h
  · exact Except.error.inj h

theorem ne_nullInName_of_makeOne {parts : List String} {here : Place} (mayExist : Bool)
    (h : d.makeOne here parts = .error error) :
    (if mayExist then d.unlessDirectory here parts error else .error error) ≠
      .error .nullInName := by
  rintro failed
  split at failed
  · cases unlessDirectory_eq_error failed
    exact makeOne_ne_nullInName parts here h
  · cases failed
    exact makeOne_ne_nullInName parts here h

theorem makeAll_ne_nullInName (mayExist : Bool) (names : List String) (here : Place) :
    (d.makeAll here mayExist names).2 ≠ .error .nullInName := by
  induction names generalizing mayExist with
  | nil =>
    rw [makeAll]
    split
    · simp
    · next e hone => exact ne_nullInName_of_makeOne mayExist hone
  | cons last before ih =>
    rw [makeAll]
    split
    · simp
    · split
      · next made e hbefore =>
        have := ih true
        rwa [hbefore] at this
      · split
        · simp
        · next e hone => exact ne_nullInName_of_makeOne mayExist hone
    · next e _ hone => exact ne_nullInName_of_makeOne mayExist hone

theorem hasNull_of_checkPath (h : checkPath p = .error .nullInName) : p.hasNull = true := by
  rw [checkPath] at h
  split_ifs at h with null
  · exact null
  · cases h

theorem hasNull_of_parent (h : p.parent.hasNull = true) : p.hasNull = true := by
  rw [Path.hasNull, List.any_eq_true] at h ⊢
  obtain ⟨part, mem, null⟩ := h
  exact ⟨part, List.dropLast_subset _ mem, null⟩

theorem hasNull_of_makeParents (h : (d.makeParents p).2 = .error .nullInName) :
    p.hasNull = true := by
  rw [makeParents, make] at h
  cases hcheck : checkPath p.parent with
  | error e =>
    rw [hcheck] at h
    cases h
    exact hasNull_of_parent (hasNull_of_checkPath hcheck)
  | ok =>
    rw [hcheck] at h
    exact absurd h (makeAll_ne_nullInName _ _ _)

theorem hasNull_of_placeOf (h : d.placeOf p = .error .nullInName) : p.hasNull = true := by
  obtain early | ⟨-, -, late⟩ := Outcome.bind_eq_error_iff.1 h
  · exact hasNull_of_checkPath early
  · exact absurd late (follow_ne_nullInName _ _)

theorem create_ne_nullInName (p : Path) : d.create p ≠ .error .nullInName := by
  intro h
  rw [create] at h
  split at h
  · cases h
  · obtain lost | ⟨place, -, there⟩ := Outcome.bind_eq_error_iff.1 h
    · exact follow_ne_nullInName p.parts [] lost
    · split at there <;> cases there

theorem createAmong_ne_nullInName (p : Path) (words : List String) :
    (d.createAmong p words).2 ≠ .error .nullInName := by
  induction words with
  | nil => simp [createAmong]
  | cons word words ih =>
    rw [createAmong]
    split
    · simp
    · exact ih
    · next e _ failed =>
      rintro ⟨⟩
      exact create_ne_nullInName _ failed

theorem hasNull_of_createBeside (h : (d.createBeside p).2 = .error .nullInName) :
    p.hasNull = true := by
  rw [createBeside] at h
  split_ifs at h with null
  · exact null
  · exact absurd h (createAmong_ne_nullInName p d.words)

theorem hasNull_of_putFile (h : (d.putFile p bytes).2 = .error .nullInName) : p.hasNull = true := by
  rw [putFile] at h
  split at h
  · next e hplace =>
    cases h
    exact hasNull_of_placeOf hplace
  · split at h <;> cases h

theorem hasNull_of_replace (h : (d.replace p bytes).2 = .error .nullInName) :
    p.hasNull = true := by
  rw [replace] at h
  split at h
  · next e failed =>
    cases h
    exact hasNull_of_createBeside failed
  · exact hasNull_of_putFile h

theorem hasNull_of_writeIfChanged
    (h : ((writeIfChanged text p : StateM Disk _).run d).1 = .error .nullInName) :
    p.hasNull = true := by
  by_cases same : d.read p = .ok text.toUTF8
  · rw [run_writeIfChanged_of_read same] at h
    cases h
  rw [run_writeIfChanged_of_ne same] at h
  split at h
  · cases h
  · have failed : ((overwrite p text.toUTF8 : StateM Disk _).run d).1 = .error .nullInName :=
      Outcome.map_eq_error_iff.1 h
    rw [run_overwrite] at failed
    split at failed
    · next made e hmade =>
      cases failed
      exact hasNull_of_makeParents (congrArg Prod.snd hmade)
    · exact hasNull_of_replace failed

end ServiceClient.Disk

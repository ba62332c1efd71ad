import ServiceClient.Disk

namespace ServiceClient.Disk

variable {d after : Disk} {q : Place} {p : Path} {e : Entry} {bytes : ByteArray}

@[simp] theorem entryAt_root : d.entryAt [] = some .directory := rfl

theorem lookup_filter_ne [BEq α] [LawfulBEq α] [DecidableEq α] {a b : α} (h : a ≠ b)
    (entries : List (α × β)) : (entries.filter (·.1 ≠ b)).lookup a = entries.lookup a := by
  induction entries with
  | nil => rfl
  | cons entry entries ih =>
    obtain ⟨key, value⟩ := entry
    by_cases other : key = b
    · subst other
      rw [List.filter_cons_of_neg (by simp), ih, List.lookup_cons, beq_false_of_ne h]
    · rw [List.filter_cons_of_pos (by simpa using other), List.lookup_cons, List.lookup_cons, ih]

theorem entryAt_put_self (h : q ≠ []) : (d.put q e).entryAt q = some e := by
  simp [entryAt, put, h]

theorem entryAt_put_of_ne {p : Place} (h : p ≠ q) : (d.put q e).entryAt p = d.entryAt p := by
  rw [entryAt, entryAt, put, List.lookup_cons, beq_false_of_ne h, lookup_filter_ne h]

theorem entryAt_put_of_directory {r : Place} (free : d.entryAt q ≠ some .directory)
    (h : d.entryAt r = some .directory) : (d.put q e).entryAt r = some .directory := by
  have other : r ≠ q := by
    rintro rfl
    exact free h
  rwa [entryAt_put_of_ne other]

theorem follow_put (free : d.entryAt q ≠ some .directory) {parts : List String} {here place : Place}
    (h : d.follow here parts = .ok place) : (d.put q e).follow here parts = .ok place := by
  induction parts generalizing here with
  | nil => exact h
  | cons part parts ih =>
    rw [follow] at h
    cases hentry : d.entryAt here with
    | none => simp [hentry] at h
    | some entry =>
      cases entry with
      | file bytes => simp [hentry] at h
      | directory =>
        simp only [hentry] at h
        rw [follow, entryAt_put_of_directory free hentry]
        split at h
        · contradiction
        · next fits => simp [fits, ih h]

theorem placeOf_eq_ok_iff {place : Place} :
    d.placeOf p = .ok place ↔ checkPath p = .ok () ∧ d.follow (d.start p) p.parts = .ok place := by
  rw [placeOf]
  cases checkPath p with
  | error e => simp [bind, Except.bind]
  | ok u => simp [bind, Except.bind]

theorem placeOf_put {place : Place} (free : d.entryAt q ≠ some .directory)
    (h : d.placeOf p = .ok place) : (d.put q e).placeOf p = .ok place := by
  rw [placeOf_eq_ok_iff] at h ⊢
  exact h.imp id (follow_put free)

theorem read_put (h : d.placeOf p = .ok q) (free : d.entryAt q ≠ some .directory) :
    (d.put q (.file bytes)).read p = .ok bytes := by
  have inner : q ≠ [] := by
    rintro rfl
    exact free entryAt_root
  simp [read, locate, placeOf_put free h, entryAt_put_self inner, bind, Except.bind, pure,
    Except.pure]

theorem putFile_eq_ok (h : d.putFile p bytes = (after, .ok ())) :
    ∃ place, d.placeOf p = .ok place ∧ d.entryAt place ≠ some .directory ∧
      after = d.put place (.file bytes) := by
  rw [putFile] at h
  split at h
  · cases congrArg Prod.snd h
  · next place hplace =>
    refine ⟨place, hplace, ?_⟩
    split at h
    · cases congrArg Prod.snd h
    · next free => exact ⟨free, (Prod.mk.inj h).1.symm⟩

theorem read_putFile (h : d.putFile p bytes = (after, .ok ())) : after.read p = .ok bytes := by
  obtain ⟨place, leads, free, rfl⟩ := putFile_eq_ok h
  exact read_put leads free

@[simp] theorem beside_put (name : String) : (d.put q e).beside p name = d.beside p name := rfl

theorem beside_ne_root (d : Disk) (p : Path) (name : String) : (d.beside p name).parts ≠ [] := by
  simp [beside, Path.child]

theorem filter_ne_of_lookup_eq_none [BEq α] [LawfulBEq α] [DecidableEq α] {a : α}
    {entries : List (α × β)} (h : entries.lookup a = none) :
    entries.filter (·.1 ≠ a) = entries := by
  induction entries with
  | nil => rfl
  | cons entry entries ih =>
    obtain ⟨key, value⟩ := entry
    rw [List.lookup_cons] at h
    by_cases same : a = key
    · simp [same] at h
    · rw [beq_false_of_ne same] at h
      rw [List.filter_cons_of_pos (by simpa using Ne.symm same), ih h]

theorem remove_put (inner : q ≠ []) (h : d.entryAt q = none) : (d.put q e).remove q = d := by
  rw [entryAt, if_neg inner] at h
  have rest : ((q, e) :: d.entries.filter (·.1 ≠ q)).filter (·.1 ≠ q) = d.entries := by
    rw [List.filter_cons_of_neg (by simp), filter_ne_of_lookup_eq_none h,
      filter_ne_of_lookup_eq_none h]
  exact congrArg (fun entries => { d with entries }) rest

theorem put_put (e' : Entry) : (d.put q e).put q e' = d.put q e' := by
  simp [put, List.filter_filter]

inductive Created (d : Disk) (p : Path) : Disk × Except FileError String → Prop
  | failed (e : FileError) : Created d p (d, .error e)
  | made (name : String) (free : d.entryAt (d.beside p name).parts = none) :
    Created d p (d.put (d.beside p name).parts (.file .empty), .ok name)

theorem create_eq_ok (h : d.create p = .ok after) :
    d.entryAt p.parts = none ∧ after = d.put p.parts (.file .empty) := by
  rw [create] at h
  split at h
  · cases h
  · cases hway : d.follow [] p.parts with
    | error e => simp [hway, bind, Except.bind] at h
    | ok place =>
      simp only [hway, bind, Except.bind] at h
      split at h
      · cases h
      · next free => exact ⟨free, (Except.ok.inj h).symm⟩

theorem created_createAmong (d : Disk) (p : Path) (words : List String) :
    Created d p (d.createAmong p words) := by
  induction words with
  | nil => exact .failed _
  | cons word words ih =>
    rw [createAmong]
    split
    · next made hmade =>
      obtain ⟨free, rfl⟩ := create_eq_ok hmade
      exact .made _ free
    · exact ih
    · exact .failed _

theorem created_createBeside (d : Disk) (p : Path) : Created d p (d.createBeside p) := by
  rw [createBeside]
  split
  · exact .failed _
  · exact created_createAmong d p d.words

def replace (d : Disk) (p : Path) (bytes : ByteArray) : Disk × Except FileError Unit :=
  match (d.createBeside p).2 with
  | .error e => (d, .error e)
  | .ok _ => d.putFile p bytes

theorem read_replace (h : d.replace p bytes = (after, .ok ())) : after.read p = .ok bytes := by
  rw [replace] at h
  split at h
  · simp at h
  · exact read_putFile h

section Pending

variable {name : String}

theorem fillBeside_put (old : ByteArray) :
    (d.put (d.beside p name).parts (.file old)).fillBeside p name bytes =
      (d.put (d.beside p name).parts (.file bytes), .ok ()) := by
  simp only [fillBeside, beside_put, entryAt_put_self (d.beside_ne_root p name), put_put]

variable (free : d.entryAt (d.beside p name).parts = none)
include free

theorem moveIntoPlace_put :
    (d.put (d.beside p name).parts (.file bytes)).moveIntoPlace p name =
      match d.putFile p bytes with
      | (d, .ok ()) => (d, .ok ())
      | (_, .error e) => (d.put (d.beside p name).parts (.file bytes), .error e) := by
  rcases hput : d.putFile p bytes with ⟨after, _ | _⟩
  all_goals simp only [moveIntoPlace, beside_put, entryAt_put_self (d.beside_ne_root p name),
    remove_put (d.beside_ne_root p name) free, hput]

theorem removeBeside_put :
    (d.put (d.beside p name).parts (.file bytes)).removeBeside p name = (d, .ok ()) := by
  simp only [removeBeside, beside_put, entryAt_put_self (d.beside_ne_root p name),
    remove_put (d.beside_ne_root p name) free]

end Pending

open FileSystem

theorem eq_of_putFile_error {error : FileError} (h : d.putFile p bytes = (after, .error error)) :
    after = d := by
  rw [putFile] at h
  split at h
  · exact (Prod.mk.inj h).1.symm
  · split at h
    · exact (Prod.mk.inj h).1.symm
    · cases congrArg Prod.snd h

theorem run_fillAndMove (p : Path) (name : String) (bytes : ByteArray) (d : Disk) :
    (fillAndMove p name bytes : StateM Disk _).run d = match d.fillBeside p name bytes with
      | (d, .error e) => (.error e, d)
      | (d, .ok ()) => (d.moveIntoPlace p name).swap := by
  simp only [fillAndMove, FileSystem.fillBeside, FileSystem.moveIntoPlace, StateT.run_bind,
    StateT.run_modifyGet]
  rcases d.fillBeside p name bytes with ⟨filled, _ | _⟩ <;> rfl

theorem run_giveUp (p : Path) (name : String) (error : FileError) (d : Disk) :
    (giveUp p name error : StateM Disk _).run d = match d.removeBeside p name with
      | (d, .error e) => (.error e, d)
      | (d, .ok ()) => (.error error, d) := by
  simp only [giveUp, FileSystem.removeBeside, StateT.run_bind, StateT.run_modifyGet]
  rcases d.removeBeside p name with ⟨removed, _ | _⟩ <;> rfl

theorem run_replace (p : Path) (bytes : ByteArray) (d : Disk) :
    (FileSystem.replace p bytes : StateM Disk _).run d = (d.replace p bytes).swap := by
  simp only [FileSystem.replace, FileSystem.createBeside, StateT.run_bind, StateT.run_modifyGet,
    pure_bind]
  have created := created_createBeside d p
  rw [replace]
  generalize d.createBeside p = found at created ⊢
  cases created with
  | failed e => rfl
  | made name free =>
    simp only [Prod.swap_prod_mk, StateT.run_bind, run_fillAndMove, fillBeside_put,
      moveIntoPlace_put free]
    rcases hput : d.putFile p bytes with ⟨after, e | _⟩
    · obtain rfl := eq_of_putFile_error hput
      have removed := run_giveUp p name e (after.put (after.beside p name).parts (.file bytes))
      rw [removeBeside_put free] at removed
      exact removed
    · rfl

theorem run_overwrite (p : Path) (bytes : ByteArray) (d : Disk) :
    (overwrite p bytes : StateM Disk _).run d = match d.makeParents p with
      | (d, .error e) => (.error e, d)
      | (d, .ok ()) => (d.replace p bytes).swap := by
  simp only [overwrite, FileSystem.makeParents, StateT.run_bind, StateT.run_modifyGet]
  rcases d.makeParents p with ⟨made, _ | _⟩
  · rfl
  · exact run_replace p bytes made

theorem read_overwrite (h : (overwrite p bytes : StateM Disk _).run d = (.ok (), after)) :
    after.read p = .ok bytes := by
  rw [run_overwrite] at h
  rcases hmade : d.makeParents p with ⟨made, _ | ⟨⟩⟩
  · rw [hmade] at h
    cases congrArg Prod.fst h
  · rw [hmade] at h
    apply read_replace (d := made)
    rw [← Prod.swap_inj, Prod.swap_prod_mk]
    exact h

theorem run_writeIfChanged_of_read {text : String} (h : d.read p = .ok text.toUTF8) :
    (writeIfChanged text p : StateM Disk _).run d = (.ok false, d) := by
  simp only [writeIfChanged, FileSystem.read, StateT.run_bind, StateT.run_get, StateT.run_pure,
    pure_bind, h, if_true]
  rfl

theorem run_writeIfChanged_of_ne {text : String} (h : d.read p ≠ .ok text.toUTF8) :
    (writeIfChanged text p : StateM Disk _).run d = match d.read p with
      | .error .nameTooLong => (.error .nameTooLong, d)
      | _ => ((overwrite p text.toUTF8 : StateM Disk _).run d).map (·.map fun _ => true) id := by
  simp only [writeIfChanged, FileSystem.read, StateT.run_bind, StateT.run_get, StateT.run_pure,
    pure_bind]
  cases hread : d.read p with
  | error e => cases e <;> rfl
  | ok bytes =>
    have other : bytes.data ≠ text.toUTF8.data := by
      intro same
      exact h (hread.trans (congrArg Except.ok (ByteArray.ext same)))
    simp only [other, if_false]
    rfl

theorem read_writeIfChanged {text : String} {written : Bool}
    (h : (writeIfChanged text p : StateM Disk _).run d = (.ok written, after)) :
    after.read p = .ok text.toUTF8 ∧ (written = true ↔ d.read p ≠ .ok text.toUTF8) := by
  by_cases same : d.read p = .ok text.toUTF8
  · rw [run_writeIfChanged_of_read same] at h
    cases h
    exact ⟨same, nofun, fun other => absurd same other⟩
  · rw [run_writeIfChanged_of_ne same] at h
    split at h
    · cases congrArg Prod.fst h
    · rcases hrun : (overwrite p text.toUTF8 : StateM Disk _).run d with ⟨_ | ⟨⟩, made⟩
      · rw [hrun] at h
        cases congrArg Prod.fst h
      · rw [hrun] at h
        cases h
        exact ⟨read_overwrite hrun, fun _ => same, fun _ => rfl⟩

end ServiceClient.Disk

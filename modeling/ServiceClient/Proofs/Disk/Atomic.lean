import ServiceClient.Proofs.Disk.Names

/-!
What a write leaves as it is. Whatever the disk holds, a write ends with the new file in its place
or with no file touched; what else it leaves behind are directories.
-/

namespace ServiceClient.Disk

open FileSystem

/-- Whether all that is listed is in a directory, and the working directory is one. -/
structure IsTree (d : Disk) : Prop where
  parent : ∀ q, d.entryAt q ≠ none → d.entryAt q.dropLast = some .directory
  workingDirectory : d.entryAt d.workingDirectory = some .directory

/-- Whether a disk holds the files of another one, and at least its directories. -/
structure Grows (d after : Disk) : Prop where
  files : ∀ q bytes, after.entryAt q = some (.file bytes) ↔ d.entryAt q = some (.file bytes)
  directories : ∀ q, d.entryAt q = some .directory → after.entryAt q = some .directory
  workingDirectory : after.workingDirectory = d.workingDirectory

/-- What a write comes to that puts bytes at the place of a path: nothing else changes but for new
directories. -/
structure Replaces (d : Disk) (p : Path) (bytes : ByteArray) (after : Disk) (place : Place) :
    Prop where
  leads : after.placeOf p = .ok place
  content : after.read p = .ok bytes
  parent : after.locate p.parent = .ok (place.dropLast, .directory)
  files : ∀ q, q ≠ place → ∀ bytes,
    after.entryAt q = some (.file bytes) ↔ d.entryAt q = some (.file bytes)
  directories : ∀ q, d.entryAt q = some .directory → after.entryAt q = some .directory

variable {d mid after : Disk} {p : Path} {q place here : Place} {e : Entry} {bytes : ByteArray}

namespace Grows

theorem refl (d : Disk) : d.Grows d := ⟨fun _ _ => Iff.rfl, fun _ => id, rfl⟩

theorem trans (h : d.Grows mid) (g : mid.Grows after) : d.Grows after where
  files q bytes := (g.files q bytes).trans (h.files q bytes)
  directories q hq := g.directories q (h.directories q hq)
  workingDirectory := g.workingDirectory.trans h.workingDirectory

theorem put_directory (free : d.entryAt q = none) : d.Grows (d.put q .directory) := by
  have inner : q ≠ [] := by
    rintro rfl
    cases free
  constructor
  · intro r bytes
    by_cases same : r = q
    · subst same
      simp [entryAt_put_self inner, free]
    · rw [entryAt_put_of_ne same]
  · intro r
    apply entryAt_put_of_directory
    simp [free]
  · rfl

end Grows

theorem IsTree.put (tree : d.IsTree) (room : d.entryAt q.dropLast = some .directory)
    (free : d.entryAt q ≠ some .directory) : (d.put q e).IsTree := by
  constructor
  · intro r hr
    apply entryAt_put_of_directory free
    by_cases same : r = q
    · rwa [same]
    · rw [entryAt_put_of_ne same] at hr
      exact tree.parent r hr
  · exact entryAt_put_of_directory free tree.workingDirectory

theorem IsTree.start (tree : d.IsTree) (p : Path) : d.entryAt (d.start p) = some .directory := by
  rw [Disk.start]
  split
  · rfl
  · exact tree.workingDirectory

theorem follow_dropLast (tree : d.IsTree) {parts : List String}
    (start : d.entryAt here = some .directory) (h : d.follow here parts = .ok place)
    (free : d.entryAt place ≠ some .directory) :
    d.follow here parts.dropLast = .ok place.dropLast ∧
      d.entryAt place.dropLast = some .directory := by
  induction parts generalizing here with
  | nil =>
    cases h
    contradiction
  | cons part parts ih =>
    rw [follow, start] at h
    dsimp only at h
    split at h
    · cases h
    · next fits =>
      cases parts with
      | nil =>
        obtain rfl : enter here part = place := Except.ok.inj h
        rw [enter] at free ⊢
        split at free
        · have above := tree.parent here (by simp [start])
          contradiction
        · next down => simpa [down, follow] using start
      | cons next parts =>
        have inside : d.entryAt (enter here part) = some .directory := by
          rw [follow] at h
          split at h
          · cases h
          · cases h
          · assumption
        rw [List.dropLast_cons_cons, follow, start]
        simpa [fits] using ih inside h

theorem makeAll_keeps {P : Disk → Prop}
    (step : ∀ d parts after, P d → d.makeOne here parts = .ok after → P after) {d : Disk}
    (h : P d) (mayExist : Bool) (names : List String) : P (d.makeAll here mayExist names).1 := by
  induction names generalizing mayExist with
  | nil =>
    rw [makeAll]
    split
    · next made hone => exact step _ _ _ h hone
    · exact h
  | cons last before ih =>
    rw [makeAll]
    split
    · next made hone => exact step _ _ _ h hone
    · have made := ih true
      split
      · next hbefore => rwa [hbefore] at made
      · next hbefore =>
        rw [hbefore] at made
        split
        · next hone => exact step _ _ _ made hone
        · exact made
    · exact h

theorem makeOne_eq_ok {parts : List String} (h : d.makeOne here parts = .ok after) :
    ∃ place, d.follow here parts = .ok place ∧ d.entryAt place = none ∧
      after = d.put place .directory := by
  obtain ⟨place, way, there⟩ := Outcome.bind_eq_ok_iff.1 h
  refine ⟨place, way, ?_⟩
  split at there
  · cases there
  · next free => exact ⟨free, (Except.ok.inj there).symm⟩

theorem makeParents_grows (d : Disk) (p : Path) : d.Grows (d.makeParents p).1 := by
  rw [makeParents, make]
  split
  · exact .refl d
  · apply makeAll_keeps (P := d.Grows) _ (.refl d)
    intro made parts after grown hone
    obtain ⟨place, _, free, rfl⟩ := makeOne_eq_ok hone
    exact grown.trans (.put_directory free)

theorem makeParents_isTree (tree : d.IsTree) (p : Path) : (d.makeParents p).1.IsTree := by
  rw [makeParents, make]
  split
  · exact tree
  · let P (made : Disk) : Prop := made.IsTree ∧ made.entryAt (d.start p.parent) = some .directory
    have step (made : Disk) (parts : List String) (after : Disk) (h : P made)
        (hone : made.makeOne (d.start p.parent) parts = .ok after) : P after := by
      obtain ⟨place, way, free, rfl⟩ := makeOne_eq_ok hone
      have vacant : made.entryAt place ≠ some .directory := by simp [free]
      have room := (follow_dropLast h.1 h.2 way vacant).2
      exact ⟨h.1.put room vacant, (Grows.put_directory free).directories _ h.2⟩
    exact (makeAll_keeps step ⟨tree, tree.start p.parent⟩ true p.parent.parts.reverse).1

theorem checkPath_of_makeParents (h : d.makeParents p = (after, .ok ())) :
    checkPath p.parent = .ok () := by
  rw [makeParents, make] at h
  split at h
  · cases congrArg Prod.snd h
  · assumption

theorem replaces_putFile (tree : d.IsTree) (parent : checkPath p.parent = .ok ())
    (h : d.putFile p bytes = (after, .ok ())) :
    ∃ place, d.Replaces p bytes after place ∧ after.IsTree := by
  obtain ⟨place, leads, free, rfl⟩ := putFile_eq_ok h
  obtain ⟨above, room⟩ := follow_dropLast tree (tree.start p) (placeOf_eq_ok_iff.1 leads).2 free
  refine ⟨place, ?_, tree.put room free⟩
  constructor
  · exact placeOf_put free leads
  · exact read_put leads free
  · have aboveLeads : d.placeOf p.parent = .ok place.dropLast :=
      placeOf_eq_ok_iff.2 ⟨parent, above⟩
    simp [locate, placeOf_put free aboveLeads, entryAt_put_of_directory free room, bind,
      Except.bind, pure, Except.pure]
  · intro q other bytes
    rw [entryAt_put_of_ne other]
  · exact fun q => entryAt_put_of_directory free

theorem Replaces.of_grows (grown : d.Grows mid) (h : mid.Replaces p bytes after place) :
    d.Replaces p bytes after place where
  leads := h.leads
  content := h.content
  parent := h.parent
  files q other bytes := (h.files q other bytes).trans (grown.files q bytes)
  directories q hq := h.directories q (grown.directories q hq)

/-- How a file is replaced: not at all, with no file touched, or as a whole. -/
inductive IsAtomic (d : Disk) (p : Path) (bytes : ByteArray) : Except FileError Unit → Disk → Prop
  | failed {after : Disk} (error : FileError) (tree : after.IsTree) (grown : d.Grows after) :
    IsAtomic d p bytes (.error error) after
  | done {after : Disk} {place : Place} (tree : after.IsTree)
    (replaced : d.Replaces p bytes after place) : IsAtomic d p bytes (.ok ()) after

theorem IsAtomic.of_grows {result : Except FileError Unit} (grown : d.Grows mid)
    (h : mid.IsAtomic p bytes result after) : d.IsAtomic p bytes result after := by
  cases h with
  | failed error tree grown' => exact .failed error tree (grown.trans grown')
  | done tree replaced => exact .done tree (replaced.of_grows grown)

theorem isAtomic_replace (tree : d.IsTree) (parent : checkPath p.parent = .ok ())
    {result : Except FileError Unit} (h : d.replace p bytes = (after, result)) :
    d.IsAtomic p bytes result after := by
  rw [replace] at h
  split at h
  · obtain ⟨rfl, rfl⟩ := Prod.mk.inj h
    exact .failed _ tree (.refl d)
  · cases result with
    | error error =>
      obtain rfl := eq_of_putFile_error h
      exact .failed error tree (.refl _)
    | ok =>
      obtain ⟨place, replaced, tree⟩ := replaces_putFile tree parent h
      exact .done tree replaced

theorem isAtomic_overwrite (tree : d.IsTree) {result : Except FileError Unit}
    (h : (overwrite p bytes : StateM Disk _).run d = (result, after)) :
    d.IsAtomic p bytes result after := by
  have grown := makeParents_grows d p
  have made := makeParents_isTree tree p
  rw [run_overwrite] at h
  rcases hmade : d.makeParents p with ⟨mid, error | _⟩
  · rw [hmade] at h grown made
    obtain ⟨rfl, rfl⟩ := Prod.mk.inj h
    exact .failed error made grown
  · rw [hmade] at h grown made
    apply IsAtomic.of_grows grown
    apply isAtomic_replace made (checkPath_of_makeParents hmade)
    rw [← Prod.swap_inj, Prod.swap_prod_mk]
    exact h

theorem isAtomic_write (tree : d.IsTree) {text : String} (other : d.read p ≠ .ok text.toUTF8)
    {result : Except FileError Bool}
    (h : (writeIfChanged text p : StateM Disk _).run d = (result, after)) :
    ∃ replaced : Except FileError Unit, result = replaced.map (fun _ => true) ∧
      d.IsAtomic p text.toUTF8 replaced after := by
  rw [run_writeIfChanged_of_ne other] at h
  split at h
  · obtain ⟨rfl, rfl⟩ := Prod.mk.inj h
    exact ⟨.error .nameTooLong, rfl, .failed _ tree (.refl d)⟩
  · rcases hrun : (overwrite p text.toUTF8 : StateM Disk _).run d with ⟨replaced, made⟩
    rw [hrun] at h
    obtain ⟨rfl, rfl⟩ := Prod.mk.inj h
    exact ⟨replaced, rfl, isAtomic_overwrite tree hrun⟩

/-- A write is atomic. It is spared just if the file holds the bytes already, and the disk is left
as it is then. If it writes, the file holds the bytes in a directory that leads to it, and no other
file has come, gone or changed. If it fails, no file at all has, and the error is not the one for a
name that no file can have. -/
theorem writeIfChanged_atomic (tree : d.IsTree) (named : p.hasNull = false) {text : String}
    {result : Except FileError Bool}
    (h : (writeIfChanged text p : StateM Disk _).run d = (result, after)) :
    after.IsTree ∧
    (result = .ok false ↔ d.read p = .ok text.toUTF8) ∧
    (result = .ok false → after = d) ∧
    (result = .ok true → ∃ place, d.Replaces p text.toUTF8 after place) ∧
    ∀ error, result = .error error → error ≠ .nullInName ∧ d.Grows after := by
  by_cases same : d.read p = .ok text.toUTF8
  · rw [run_writeIfChanged_of_read same] at h
    obtain ⟨rfl, rfl⟩ := Prod.mk.inj h
    exact ⟨tree, ⟨fun _ => same, fun _ => rfl⟩, fun _ => rfl, nofun, nofun⟩
  · have known : result ≠ .error .nullInName := by
      rintro rfl
      have null := hasNull_of_writeIfChanged (congrArg Prod.fst h)
      rw [named] at null
      contradiction
    obtain ⟨replaced, rfl, atomic⟩ := isAtomic_write tree same h
    cases atomic with
    | failed error tree grown =>
      refine ⟨tree, ⟨nofun, fun held => absurd held same⟩, nofun, nofun, ?_⟩
      rintro _ ⟨⟩
      exact ⟨fun null => known (null ▸ rfl), grown⟩
    | done tree replaced =>
      exact ⟨tree, ⟨nofun, fun held => absurd held same⟩, nofun, fun _ => ⟨_, replaced⟩, nofun⟩

theorem isTree_empty : IsTree empty := by
  constructor
  · intro q hq
    by_cases root : q = []
    · rw [root]
      rfl
    · by_cases known : q = ["work"]
      · rw [known]
        rfl
      · simp [entryAt, empty, root, List.lookup_cons, beq_false_of_ne known] at hq
  · rfl

def oneFile : Disk := empty.put ["work", "app.ts"] (.file "old".toUTF8)

def rewritten (path : String) : Except FileError Bool × Disk :=
  (writeIfChanged "new" (Path.parse path) : StateM Disk _).run oneFile

theorem writeIfChanged_atomic_upward :
    (rewritten "lib/../app.ts").1 = .ok true ∧
    (∃ place, oneFile.Replaces (Path.parse "lib/../app.ts") "new".toUTF8
      (rewritten "lib/../app.ts").2 place) ∧
    (rewritten "lib/util/..").1 = .error .isDirectory ∧
    oneFile.Grows (rewritten "lib/util/..").2 := by
  have tree : oneFile.IsTree := isTree_empty.put rfl nofun
  have wrote : (rewritten "lib/../app.ts").1 = .ok true := rfl
  have failed : (rewritten "lib/util/..").1 = .error .isDirectory := rfl
  obtain ⟨_, _, _, done, _⟩ := writeIfChanged_atomic (p := Path.parse "lib/../app.ts") tree
    (by decide +kernel) rfl
  obtain ⟨_, _, _, _, kept⟩ := writeIfChanged_atomic (p := Path.parse "lib/util/..") tree
    (by decide +kernel) rfl
  exact ⟨wrote, done wrote, failed, (kept _ failed).2⟩

end ServiceClient.Disk

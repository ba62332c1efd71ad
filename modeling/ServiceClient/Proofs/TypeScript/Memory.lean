import ServiceClient.Proofs.Steady
import ServiceClient.Proofs.TypeScript.Mapping
import ServiceClient.TypeScript.Memo

namespace ServiceClient.TypeScript

def Memo.Faithful (m : Mapping) (memo : Memo) : Prop :=
  ∀ t mapped, memo.lookup t = some mapped → m.map t = .ok mapped

theorem Memo.faithful_nil (m : Mapping) : Memo.Faithful m [] := by
  intro t mapped h
  contradiction

theorem Memo.Faithful.cons {m : Mapping} {memo : Memo} {t : HostType} {mapped : Mapped}
    (h : Memo.Faithful m memo) (ht : m.map t = .ok mapped) :
    Memo.Faithful m ((t, mapped) :: memo) := by
  intro u found hu
  rw [List.lookup_cons] at hu
  split at hu
  · next same =>
    cases hu
    rw [eq_of_beq same, ht]
  · exact h u found hu

namespace Mapping

def mapAnew (m : Mapping) (t : HostType) : Remembering Mapped :=
  match m.rule t with
  | .atom mapped => pure mapped
  | .wrapper content => m.mapRemembering content
  | .sequence element => Mapped.array <$> m.mapRemembering element
  | .dictionary key value => m.mapRemembering key *> Mapped.indexed <$> m.mapRemembering value
  | .unmappable fault => throw ⟨t.toNotation, fault⟩

theorem mapRemembering_eq (m : Mapping) (t : HostType) :
    m.mapRemembering t = get >>= fun memo =>
      match memo.lookup t with
      | some mapped => pure mapped
      | none => remember t (m.mapAnew t) := by
  rw [mapRemembering]
  congr
  funext memo
  cases memo.lookup t with
  | some mapped => rfl
  | none =>
    simp only [mapAnew]
    congr
    split <;> simp only [*]

variable {m : Mapping}

theorem steady_remember {t : HostType} {x : Remembering Mapped}
    (hx : Steady (Memo.Faithful m) x.run (m.map t)) :
    Steady (Memo.Faithful m) (remember t x).run (m.map t) := by
  rw [remember, ExceptT.run_bind]
  refine hx.bind ?_
  cases ht : m.map t with
  | error e => exact .pure _
  | ok mapped =>
    intro memo h
    exact ⟨rfl, h.cons ht⟩

theorem steady_mapRemembering_of_anew {t : HostType}
    (h : Steady (Memo.Faithful m) (m.mapAnew t).run (m.map t)) :
    Steady (Memo.Faithful m) (m.mapRemembering t).run (m.map t) := by
  rw [mapRemembering_eq]
  refine .run_get_bind fun memo faithful => ?_
  cases found : memo.lookup t with
  | none => exact steady_remember h
  | some mapped =>
    rw [faithful t mapped found]
    exact .run_pure mapped

theorem steady_mapRemembering (t : HostType) :
    Steady (Memo.Faithful m) (m.mapRemembering t).run (m.map t) := by
  induction t using map.induct m with
  | case1 t mapped hrule =>
    apply steady_mapRemembering_of_anew
    rw [mapAnew, map_eq m t, hrule]
    exact .run_pure mapped
  | case2 t content hrule ih =>
    apply steady_mapRemembering_of_anew
    rw [mapAnew, map_eq m t, hrule]
    exact ih
  | case3 t element hrule ih =>
    apply steady_mapRemembering_of_anew
    rw [mapAnew, map_eq m t, hrule]
    exact ih.run_map Mapped.array
  | case4 t key value hrule ihKey ihValue =>
    apply steady_mapRemembering_of_anew
    rw [mapAnew, map_eq m t, hrule]
    simp only [seqRight_eq_bind]
    exact ihKey.run_bind fun _ => ihValue.run_map Mapped.indexed
  | case5 t fault hrule =>
    apply steady_mapRemembering_of_anew
    rw [mapAnew, map_eq m t, hrule]
    exact .run_throw _

def mapEach (m : Mapping) (ts : List HostType) : StateM Memo (List (Except Unmappable Mapped)) :=
  ts.mapM fun t => (m.mapRemembering t).run

theorem steady_mapEach (ts : List HostType) :
    Steady (Memo.Faithful m) (m.mapEach ts) (ts.map m.map) :=
  Steady.mapM fun t _ => steady_mapRemembering t

/-- Each type of a sequence is mapped as if it were the only one, and the memory that is left holds
nothing else. -/
theorem mapEach_transparent (m : Mapping) (ts : List HostType) :
    ((m.mapEach ts).run []).1 = ts.map m.map ∧ Memo.Faithful m ((m.mapEach ts).run []).2 :=
  steady_mapEach ts [] (Memo.faithful_nil m)

end Mapping

end ServiceClient.TypeScript

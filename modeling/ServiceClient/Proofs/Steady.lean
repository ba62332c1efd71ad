namespace ServiceClient

/-- From every state with the invariant `I` the computation answers `a` and leaves such a state. -/
def Steady (I : σ → Prop) (x : StateM σ α) (a : α) : Prop :=
  ∀ s, I s → (x.run s).1 = a ∧ I (x.run s).2

namespace Steady

variable {I : σ → Prop}

theorem pure (a : α) : Steady I (Pure.pure a) a := fun _ hs => ⟨rfl, hs⟩

theorem bind {x : StateM σ α} {a : α} {f : α → StateM σ β} {b : β} (hx : Steady I x a)
    (hf : Steady I (f a) b) : Steady I (x >>= f) b := by
  intro s hs
  obtain ⟨answer, kept⟩ := hx s hs
  have := hf (x.run s).2 kept
  rw [← answer] at this
  exact this

theorem mapM {f : α → StateM σ β} {g : α → β} {as : List α} (h : ∀ a ∈ as, Steady I (f a) (g a)) :
    Steady I (as.mapM f) (as.map g) := by
  induction as with
  | nil => exact pure []
  | cons a as ih =>
    rw [List.forall_mem_cons] at h
    rw [List.mapM_cons]
    exact h.1.bind ((ih h.2).bind (pure _))

theorem run_pure (a : α) : Steady I (Pure.pure a : ExceptT ε (StateM σ) α).run (.ok a) := pure _

theorem run_throw (e : ε) : Steady I (throw e : ExceptT ε (StateM σ) α).run (.error e) := pure _

theorem run_bind {x : ExceptT ε (StateM σ) α} {e : Except ε α} {f : α → ExceptT ε (StateM σ) β}
    {g : α → Except ε β} (hx : Steady I x.run e) (hf : ∀ a, Steady I (f a).run (g a)) :
    Steady I (x >>= f).run (e >>= g) := by
  rw [ExceptT.run_bind]
  refine hx.bind ?_
  cases e with
  | error e => exact pure _
  | ok a => exact hf a

theorem run_get_bind {f : σ → ExceptT ε (StateM σ) α} {e : Except ε α}
    (h : ∀ s, I s → Steady I (f s).run e) : Steady I (get >>= f).run e :=
  fun s hs => h s hs s hs

theorem run_map {x : ExceptT ε (StateM σ) α} {e : Except ε α} (f : α → β) (hx : Steady I x.run e) :
    Steady I (f <$> x).run (f <$> e) := by
  rw [← bind_pure_comp, ← bind_pure_comp]
  exact hx.run_bind fun a => run_pure _

theorem run_mapM {f : α → ExceptT ε (StateM σ) β} {g : α → Except ε β} {as : List α}
    (h : ∀ a ∈ as, Steady I (f a).run (g a)) : Steady I (as.mapM f).run (as.mapM g) := by
  induction as with
  | nil => exact pure _
  | cons a as ih =>
    rw [List.forall_mem_cons] at h
    rw [List.mapM_cons, List.mapM_cons]
    exact h.1.run_bind fun b => (ih h.2).run_bind fun bs => run_pure _

end Steady

end ServiceClient

import Mathlib.Data.Option.Basic
import ServiceClient.Logging.Level
import ServiceClient.Logging.Line
import ServiceClient.Proofs.Pointwise
import ServiceClient.Proofs.Value

namespace ServiceClient.Logging

open Value

def levelOf? : Value → Option Int
  | .int n => some n
  | .bool b => some (if b then 1 else 0)
  | .text s => (levelNumber? s).map Int.ofNat
  | _ => none

def levelTaken : Value → Int
  | .text s => (levelNumber? s).getD info
  | _ => info

/-- Whether a level is a number beyond the override, seen from the level of informative lines. -/
def IsMistaken (number : Nat) (level : Value) (n : Int) : Prop :=
  isNumber level = true ∧ (number < info ∧ n < number ∨ info ≤ number ∧ number < n)

instance (number : Nat) (level : Value) (n : Int) : Decidable (IsMistaken number level n) :=
  inferInstanceAs (Decidable (_ ∧ _))

def ChangedAt (name : String) (v v' : Value) : Prop :=
  ∃ es es', v.entries? = some es ∧ v'.entries? = some es' ∧ without [name] es' = without [name] es

structure LoggerSet (level : String) (logger logger' : Value) : Prop where
  level : logger'.HasField "level" (.text level)
  others : ChangedAt "level" logger logger'

/-- Whether a handler without a level is left as it is, and one with a level as it is but for that,
which is the lower one of its own and the override, or the higher one if its own is mistaken. -/
structure HandlerLowered (number : Nat) (handler handler' : Value) : Prop where
  unchanged : (∀ level, ¬handler.HasField "level" level) → handler' = handler
  level : ∀ level n, handler.HasField "level" level → levelOf? level = some n →
    ∃ level', handler'.HasField "level" level' ∧
      levelOf? level' = some (if IsMistaken number level n then max n number else min n number)
  others : ∀ level, handler.HasField "level" level → ChangedAt "level" handler handler'

def EachRelated (R : Value → Value → Prop) (v v' : Value) : Prop :=
  ∃ es es', v.entries? = some es ∧ v'.entries? = some es' ∧
    List.Forall₂ (fun e e' => e'.1 = e.1 ∧ R e.2 e'.2) es es'

/-- Whether a configuration is left as it is but for the levels of loggers and handlers. -/
structure Overridden (level : String) (number : Nat) (config config' : List (Value × Value)) :
    Prop where
  loggers : Option.Rel (EachRelated (LoggerSet level)) (get? "loggers" config)
    (get? "loggers" config')
  root : Option.Rel (LoggerSet level) (get? "root" config) (get? "root" config')
  handlers : Option.Rel (EachRelated (HandlerLowered number)) (get? "handlers" config)
    (get? "handlers" config')
  others : without ["loggers", "root", "handlers"] config' =
    without ["loggers", "root", "handlers"] config

/-- Whether loggers are records, and the levels of handlers are numbers or names of numbers. -/
structure IsConfiguration (config : List (Value × Value)) : Prop where
  loggers : ∀ v, get? "loggers" config = some v → ∃ es, v.entries? = some es ∧
    ∀ e ∈ es, ∃ fields, e.2.entries? = some fields
  root : ∀ v, get? "root" config = some v → ∃ fields, v.entries? = some fields
  handlers : ∀ v, get? "handlers" config = some v → ∃ es, v.entries? = some es ∧
    ∀ e ∈ es, ∀ level, e.2.HasField "level" level → (levelOf? level).isSome

theorem ChangedAt.refl {name : String} {v : Value} {es : List (Value × Value)}
    (h : v.entries? = some es) : ChangedAt name v v :=
  ⟨es, es, h, h, rfl⟩

theorem changedAt_insert {name : String} {v : Value} {es : List (Value × Value)}
    (h : v.entries? = some es) (w : Value) :
    ChangedAt name v (.mapping (insert (.text name) w es)) :=
  ⟨es, _, h, rfl, without_insert (List.mem_singleton_self name) w es⟩

theorem hasField_insert (name : String) (w : Value) (es : List (Value × Value)) :
    (Value.mapping (insert (.text name) w es)).HasField name w :=
  ⟨_, rfl, by rw [get?_insert, if_pos rfl]⟩

theorem exists_setLevel {level : String} {v : Value} {es : List (Value × Value)}
    (h : v.entries? = some es) : ∃ v', setLevel level v = .ok v' ∧ LoggerSet level v v' := by
  refine ⟨.mapping (insert (.text "level") (.text level) es), by rw [setLevel, h], ?_⟩
  exact ⟨hasField_insert "level" _ es, changedAt_insert h _⟩

section Handlers

variable {number : Nat} {level : Value} {n : Int}

theorem levelTaken_of_number (h : isNumber level = true) : levelTaken level = info := by
  cases level with
  | text s => contradiction
  | _ => rfl

theorem levelTaken_of_name (h : levelOf? level = some n) (name : isNumber level = false) :
    levelTaken level = n := by
  cases level with
  | text s =>
    obtain ⟨known, found, rfl⟩ := Option.map_eq_some_iff.1 h
    rw [levelTaken, found]
    rfl
  | _ => contradiction

theorem isBelow_eq (h : levelOf? level = some n) :
    isBelow number level = .ok (decide (number < levelTaken level)) := by
  cases level with
  | text s =>
    obtain ⟨known, found, -⟩ := Option.map_eq_some_iff.1 h
    simp [isBelow, levelTaken, found]
  | _ => simp [isBelow, levelTaken]

theorem lowered_eq (h : levelOf? level = some n) :
    (if number < levelTaken level then (number : Int) else n) =
      if IsMistaken number level n then max n number else min n number := by
  cases kind : isNumber level with
  | true =>
    -- Only a number on the same side of the override as informative lines is compared right.
    rw [levelTaken_of_number kind]
    simp only [IsMistaken, kind, true_and]
    split_ifs <;> omega
  | false =>
    have right : ¬IsMistaken number level n :=
      fun mistaken => Bool.false_ne_true (kind.symm.trans mistaken.1)
    rw [levelTaken_of_name h kind, if_neg right]
    split_ifs <;> omega

theorem lowerHandler_of_no_level {name : String} {v : Value}
    (h : ∀ level, ¬v.HasField "level" level) : lowerHandler name number v = .ok v := by
  rw [lowerHandler]
  split
  · next es hes =>
    split
    · next level hlevel => exact absurd ⟨es, hes, hlevel⟩ (h level)
    · rfl
  · rfl

theorem lowerHandler_of_level {name : String} {v : Value} {es : List (Value × Value)}
    (hes : v.entries? = some es) (hlevel : get? "level" es = some level)
    (h : levelOf? level = some n) :
    lowerHandler name number v = .ok (if number < levelTaken level
      then .mapping (insert (.text "level") (.text name) es) else v) := by
  simp only [lowerHandler, hes, hlevel, isBelow_eq h]
  by_cases below : number < levelTaken level
  · rw [if_pos below, decide_eq_true below]
    rfl
  · rw [if_neg below, decide_eq_false below]
    rfl

theorem exists_lowerHandler {name : String} {v : Value} (named : levelNumber? name = some number)
    (known : ∀ level, v.HasField "level" level → (levelOf? level).isSome) :
    ∃ v', lowerHandler name number v = .ok v' ∧ HandlerLowered number v v' := by
  by_cases has : ∃ level, v.HasField "level" level
  · obtain ⟨own, es, hes, hown⟩ := has
    have only : ∀ level, v.HasField "level" level → level = own :=
      fun level h => h.inj ⟨es, hes, hown⟩
    obtain ⟨n, hn⟩ := Option.isSome_iff_exists.1 (known own ⟨es, hes, hown⟩)
    refine ⟨_, lowerHandler_of_level hes hown hn, fun none => absurd ⟨es, hes, hown⟩ (none own),
      fun level k hlevel hk => ?_, fun level hlevel => ?_⟩
    · obtain rfl := only level hlevel
      cases hn.symm.trans hk
      rw [← lowered_eq hn]
      split
      · exact ⟨_, hasField_insert "level" _ es, by rw [levelOf?, named]; rfl⟩
      · exact ⟨level, hlevel, hn⟩
    · split
      · exact changedAt_insert hes _
      · exact .refl hes
  · rw [not_exists] at has
    exact ⟨v, lowerHandler_of_no_level has, fun _ => rfl, fun level _ h => absurd h (has level),
      fun level h => absurd h (has level)⟩

end Handlers

section Fields

variable {R : Value → Value → Prop} {change : Value → Except OverrideError Value}

def changeEach (change : Value → Except OverrideError Value) (es : List (Value × Value)) :
    Except OverrideError (List (Value × Value)) :=
  es.mapM fun e => (change e.2).map (e.1, ·)

def changeField (name : String) (change : Value → Except OverrideError Value)
    (config : List (Value × Value)) : Except OverrideError (List (Value × Value)) :=
  (get? name config).elim (.ok config) fun v =>
    (change v).map fun v' => insert (.text name) v' config

def changeMapping (change : List (Value × Value) → Except OverrideError (List (Value × Value)))
    (v : Value) : Except OverrideError Value :=
  v.entries?.elim (.error .notMapping) fun es => (change es).map .mapping

structure FieldChanged (name : String) (R : Value → Value → Prop)
    (config config' : List (Value × Value)) : Prop where
  related : Option.Rel R (get? name config) (get? name config')
  others : without [name] config' = without [name] config

theorem FieldChanged.get? {name other : String} {config config' : List (Value × Value)}
    (h : FieldChanged name R config config') (differ : other ≠ name) :
    get? other config' = get? other config := by
  have unnamed : other ∉ [name] := by simpa using differ
  rw [← get?_without unnamed config', h.others, get?_without unnamed]

theorem FieldChanged.without {name : String} {names : List String}
    {config config' : List (Value × Value)} (h : FieldChanged name R config config')
    (named : name ∈ names) : without names config' = without names config := by
  have fewer : [name] ⊆ names := List.cons_subset.2 ⟨named, List.nil_subset _⟩
  rw [← without_without fewer config', h.others, without_without fewer]

theorem changeEach_cons (e : Value × Value) (es : List (Value × Value)) :
    changeEach change (e :: es) =
      do return (e.1, ← change e.2) :: (← changeEach change es) := by
  rw [changeEach, List.mapM_cons]
  cases change e.2 <;> rfl

theorem exists_changeEach {es : List (Value × Value)}
    (h : ∀ e ∈ es, ∃ v', change e.2 = .ok v' ∧ R e.2 v') :
    ∃ es', changeEach change es = .ok es' ∧
      List.Forall₂ (fun e e' => e'.1 = e.1 ∧ R e.2 e'.2) es es' := by
  refine Pointwise.exists_mapM fun e he => ?_
  obtain ⟨v', changed, related⟩ := h e he
  exact ⟨(e.1, v'), by rw [changed]; rfl, rfl, related⟩

theorem exists_changeMapping {v : Value} {es : List (Value × Value)} (hes : v.entries? = some es)
    (h : ∀ e ∈ es, ∃ v', change e.2 = .ok v' ∧ R e.2 v') :
    ∃ v', changeMapping (changeEach change) v = .ok v' ∧ EachRelated R v v' := by
  obtain ⟨es', changed, related⟩ := exists_changeEach h
  refine ⟨.mapping es', ?_, es, es', hes, rfl, related⟩
  rw [changeMapping, hes, Option.elim_some, changed]
  rfl

theorem exists_changeField {name : String} {config : List (Value × Value)}
    (h : ∀ v, get? name config = some v → ∃ v', change v = .ok v' ∧ R v v') :
    ∃ config', changeField name change config = .ok config' ∧
      FieldChanged name R config config' := by
  cases found : get? name config with
  | none =>
    refine ⟨config, by rw [changeField, found]; rfl, ?_, rfl⟩
    rw [found]
    exact .none
  | some v =>
    obtain ⟨v', changed, related⟩ := h v found
    refine ⟨insert (.text name) v' config, ?_, ?_,
      without_insert (List.mem_singleton_self name) v' config⟩
    · rw [changeField, found, Option.elim_some, changed]
      rfl
    · rw [found, get?_insert, if_pos rfl]
      exact .some related

end Fields

section Steps

variable {level : String} {number : Nat}

theorem setLevels_eq (level : String) : setLevels level = changeEach (setLevel level) := by
  funext es
  induction es with
  | nil => rfl
  | cons e es ih => rw [setLevels, ih, changeEach_cons]

theorem lowerHandlers_eq (level : String) (number : Nat) :
    lowerHandlers level number = changeEach (lowerHandler level number) := by
  funext es
  induction es with
  | nil => rfl
  | cons e es ih => rw [lowerHandlers, ih, changeEach_cons]

theorem changeSection_eq (name : String)
    (change : List (Value × Value) → Except OverrideError (List (Value × Value))) :
    changeSection name change = changeField name (changeMapping change) := by
  funext config
  rw [changeSection, changeField]
  cases get? name config with
  | none => rfl
  | some v =>
    rw [Option.elim_some, changeMapping]
    cases hes : v.entries? with
    | none =>
      simp only [hes]
      rfl
    | some es =>
      simp only [hes, Option.elim_some]
      cases change es <;> rfl

theorem applyLevel_eq (known : levelNumber? (Text.upper level) = some number)
    (config : List (Value × Value)) :
    applyLevel level config =
      changeField "loggers" (changeMapping (changeEach (setLevel (Text.upper level)))) config >>=
      changeField "root" (setLevel (Text.upper level)) >>=
      changeField "handlers"
        (changeMapping (changeEach (lowerHandler (Text.upper level) number))) := by
  rw [bind_assoc]
  simp only [applyLevel, known, changeSection_eq, setLevels_eq, lowerHandlers_eq]
  congr
  funext config
  rw [changeField]
  cases get? "root" config with
  | none => rfl
  | some root =>
    dsimp only [Option.elim_some]
    cases setLevel (Text.upper level) root <;> rfl

end Steps

section Configuration

variable {level : String} {number : Nat} {config : List (Value × Value)}
  (h : IsConfiguration config)
include h

theorem exists_loggersSet (v : Value) (hv : get? "loggers" config = some v) :
    ∃ v', changeMapping (changeEach (setLevel level)) v = .ok v' ∧
      EachRelated (LoggerSet level) v v' := by
  obtain ⟨es, hes, records⟩ := h.loggers v hv
  refine exists_changeMapping hes fun e he => ?_
  obtain ⟨fields, hfields⟩ := records e he
  exact exists_setLevel hfields

theorem exists_rootSet (v : Value) (hv : get? "root" config = some v) :
    ∃ v', setLevel level v = .ok v' ∧ LoggerSet level v v' := by
  obtain ⟨fields, hfields⟩ := h.root v hv
  exact exists_setLevel hfields

theorem exists_handlersLowered (named : levelNumber? level = some number) (v : Value)
    (hv : get? "handlers" config = some v) :
    ∃ v', changeMapping (changeEach (lowerHandler level number)) v = .ok v' ∧
      EachRelated (HandlerLowered number) v v' := by
  obtain ⟨es, hes, levels⟩ := h.handlers v hv
  exact exists_changeMapping hes fun e he => exists_lowerHandler named (levels e he)

/-- The override leaves a configuration as it is but for the levels of its loggers, which are the
named one, and of its handlers. These are the lower one of the override and their own, but the
higher one where a handler has a mistaken number. -/
theorem applyLevel_overrides (known : levelNumber? (Text.upper level) = some number) :
    ∃ config', applyLevel level config = .ok config' ∧
      Overridden (Text.upper level) number config config' := by
  obtain ⟨config₁, changed₁, loggers⟩ := exists_changeField (exists_loggersSet h)
  -- Each step finds its field as it was, since the steps before have changed other ones.
  have roots : get? "root" config₁ = get? "root" config := loggers.get? (by decide)
  obtain ⟨config₂, changed₂, root⟩ :=
    exists_changeField fun v hv => exists_rootSet h v (roots ▸ hv)
  have handlers₂ : get? "handlers" config₂ = get? "handlers" config := by
    rw [root.get? (by decide), loggers.get? (by decide)]
  obtain ⟨config₃, changed₃, handlers⟩ :=
    exists_changeField fun v hv => exists_handlersLowered h known v (handlers₂ ▸ hv)
  refine ⟨config₃, ?_, ?_, ?_, ?_, ?_⟩
  · rw [applyLevel_eq known, Outcome.bind_eq_ok_iff]
    exact ⟨config₂, Outcome.bind_eq_ok_iff.2 ⟨config₁, changed₁, changed₂⟩, changed₃⟩
  · rw [handlers.get? (by decide), root.get? (by decide)]
    exact loggers.related
  · rw [handlers.get? (by decide), ← roots]
    exact root.related
  · rw [← handlers₂]
    exact handlers.related
  · rw [handlers.without (by decide), root.without (by decide), loggers.without (by decide)]

end Configuration

theorem applyLevel_overrides_warning :
    let console : Value := .mapping [(.text "class", .text "logging.StreamHandler"),
      (.text "level", .text "ERROR")]
    let file : Value := .mapping [(.text "level", .int 10)]
    let config : List (Value × Value) := [(.text "version", .int 1),
      (.text "handlers", .mapping [(.text "console", console), (.text "file", file),
        (.text "none", .mapping [])]),
      (.text "loggers", .mapping [(.text "users", .mapping [])])]
    ∃ config', applyLevel "warning" config = .ok config' ∧
      Overridden "WARNING" 30 config config' ∧ ¬IsMistaken 30 (.int 10) 10 := by
  intro console file config
  have known : levelNumber? (Text.upper "warning") = some 30 := by decide +kernel
  have error : levelNumber? "ERROR" = some 40 := by decide +kernel
  have configuration : IsConfiguration config := by
    refine ⟨fun v hv => ?_, fun v hv => ?_, fun v hv => ?_⟩
    · obtain rfl : _ = v := by simpa [config, get?] using hv
      exact ⟨_, rfl, by simp [entries?, opened]⟩
    · simp [config, get?] at hv
    · obtain rfl : _ = v := by simpa [config, get?] using hv
      exact ⟨_, rfl, by simp [HasField, entries?, opened, console, file, get?, levelOf?, error]⟩
  obtain ⟨config', changed, overridden⟩ := applyLevel_overrides configuration known
  rw [show Text.upper "warning" = "WARNING" by decide +kernel] at overridden
  exact ⟨config', changed, overridden, by decide⟩

/-- A handler that is more verbose than the override, by a number: it is made less verbose. -/
theorem applyLevel_raises_number :
    let config (level : Value) : List (Value × Value) :=
      [(.text "handlers", .mapping [(.text "console", .mapping [(.text "level", level)])])]
    IsConfiguration (config (.int 5)) ∧
      applyLevel "DEBUG" (config (.int 5)) = .ok (config (.text "DEBUG")) ∧
      levelOf? (.text "DEBUG") = some 10 ∧ levelOf? (.int 5) = some 5 ∧ min 5 10 ≠ 10 := by
  intro config
  have name : Text.upper "DEBUG" = "DEBUG" := by decide +kernel
  refine ⟨⟨fun v hv => ?_, fun v hv => ?_, fun v hv => ?_⟩, ?_, by decide +kernel, rfl, by decide⟩
  · simp [config, get?] at hv
  · simp [config, get?] at hv
  · obtain rfl : _ = v := by simpa [config, get?] using hv
    exact ⟨_, rfl, by simp [HasField, entries?, opened, get?, levelOf?]⟩
  · rw [applyLevel, name]
    rfl

end ServiceClient.Logging

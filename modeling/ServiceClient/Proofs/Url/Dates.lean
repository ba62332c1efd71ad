import ServiceClient.Proofs.Generation.Plain
import ServiceClient.Proofs.Pointwise
import ServiceClient.Proofs.TypeScript.Blame
import ServiceClient.Proofs.TypeScript.ResultMapping

namespace ServiceClient

open TypeScript Outcome

namespace Url

def datePair (p : Parameter) : String := p.name ++ "=" ++ placeholder (p.name ++ ".toISOString()")

def guardedPair (p : Parameter) : String :=
  p.name ++ "=" ++ placeholder (p.name ++ " ? " ++ p.name ++ ".toISOString() : ''")

theorem guardedPair_ne_datePair (p : Parameter) : guardedPair p ≠ datePair p := by
  intro same
  have characters := congrArg String.toList same
  simp [guardedPair, datePair, placeholder] at characters

theorem queryPair_of_isDate {m : Mapping} {p : Parameter} {mapped : Mapped}
    (h : m.map p.type = .ok mapped) (date : mapped.isDate = true) :
    queryPair m.map p =
      .ok (if p.type.simpleName = "Nullable" then guardedPair p else datePair p) := by
  rw [queryPair, h]
  change Except.ok _ = _
  rw [date, queryValue, if_neg (by decide)]
  split_ifs <;> rfl

end Url

namespace TypeScript

@[simp] theorem Mapped.isDate_array (element : Mapped) : element.array.isDate = false := rfl

@[simp] theorem Mapped.isDate_indexed (value : Mapped) : value.indexed.isDate = false := rfl

namespace Mapping

variable {m : Mapping} {t : HostType} {mapped : Mapped}

def wrappersAround (m : Mapping) : HostType → List String
  | ⟨name, [content], isModel⟩ =>
    if m.IsWrapperOf ⟨name, [content], isModel⟩ content then
      HostType.simpleName ⟨name, [content], isModel⟩ :: m.wrappersAround content
    else []
  | _ => []

theorem wrappersAround_of_isWrapperOf {content : HostType} (h : m.IsWrapperOf t content) :
    m.wrappersAround t = t.simpleName :: m.wrappersAround content := by
  obtain ⟨name, arguments, isModel⟩ := t
  obtain rfl : arguments = [content] := h.2.2
  rw [wrappersAround, if_pos h]

theorem wrappersAround_of_forall_not (h : ∀ content, ¬m.IsWrapperOf t content) :
    m.wrappersAround t = [] := by
  obtain ⟨name, arguments, isModel⟩ := t
  rcases arguments with _ | ⟨content, _ | ⟨other, more⟩⟩
  · rfl
  · rw [wrappersAround, if_neg (h content)]
  · rfl

def IsDate (m : Mapping) (t : HostType) : Prop :=
  m.IsOrdinary t ∧ t.simpleName ∈ dates ∧ t.arguments = []

instance (m : Mapping) : DecidablePred m.IsDate := fun _ => inferInstanceAs (Decidable (_ ∧ _))

theorem isDate_of_fallsUnder {r : Rule} (falls : m.FallsUnder t r)
    (other : ∀ content, r ≠ .wrapper content) (h : m.map t = .ok mapped)
    (date : mapped.isDate = true) : m.IsDate t := by
  rw [map_eq, rule_of_fallsUnder falls] at h
  cases falls with
  | override | model | primitive =>
    cases h
    contradiction
  | wrapper => exact absurd rfl (other _)
  | date ordinary name arguments => exact ⟨ordinary, name, arguments⟩
  | sequence =>
    obtain ⟨element, _, same⟩ := bind_eq_ok_iff.1 h
    rw [← Except.ok.inj same, Mapped.isDate_array] at date
    exact absurd date Bool.false_ne_true
  | dictionary =>
    obtain ⟨_, _, h⟩ := bind_eq_ok_iff.1 h
    obtain ⟨value, _, same⟩ := bind_eq_ok_iff.1 h
    rw [← Except.ok.inj same, Mapped.isDate_indexed] at date
    exact absurd date Bool.false_ne_true
  | unmappable => contradiction

theorem map_of_isDate (h : m.IsDate t) :
    m.map t = .ok { expression := "moment.Moment", isDate := true, isPrimitive := true } := by
  rw [map_eq, rule_of_fallsUnder (.date h.1 h.2.1 h.2.2)]

theorem isDate_iff (h : m.map t = .ok mapped) :
    mapped.isDate = true ↔ m.IsDate (m.unwrapped t) := by
  rw [← map_core, ← unwrapped_eq_core] at h
  constructor
  · intro date
    obtain ⟨r, falls⟩ := m.exists_fallsUnder (m.unwrapped t)
    -- Inside all wrappers there is none left, so only the case of dates makes a date.
    refine isDate_of_fallsUnder falls ?_ h date
    rintro content rfl
    rw [← rule_eq_iff, unwrapped_eq_core] at falls
    exact rule_core_ne_wrapper m t content falls
  · intro date
    rw [map_of_isDate date] at h
    rw [← Except.ok.inj h]

theorem head?_wrappersAround_iff (date : m.IsDate (m.unwrapped t)) :
    (m.wrappersAround t).head? = some "Nullable" ↔ t.simpleName = "Nullable" := by
  by_cases wrapped : ∃ content, m.IsWrapperOf t content
  · obtain ⟨content, wrapper⟩ := wrapped
    simp [wrappersAround_of_isWrapperOf wrapper]
  · rw [unwrapped_of_forall_not (not_exists.1 wrapped)] at date
    rw [wrappersAround_of_forall_not (not_exists.1 wrapped)]
    constructor
    · rintro ⟨⟩
    · intro nullable
      have name := date.2.1
      rw [nullable] at name
      exact absurd name (by decide)

end Mapping

end TypeScript

namespace Url

variable {m : Mapping} {p : Parameter} {pair : String}

/-- Whether what a query says of a date is guarded just if a wrapper around the date says that it
may be missing. -/
def GuardsOptional (m : Mapping) (p : Parameter) (pair : String) : Prop :=
  pair = if "Nullable" ∈ m.wrappersAround p.type then guardedPair p else datePair p

/-- What a query says of a parameter whose type is mapped to a date: the guard looks at no more than
the outermost wrapper. -/
structure GuardsOutermost (m : Mapping) (p : Parameter) (pair : String) : Prop where
  guarded : pair = guardedPair p ↔ (m.wrappersAround p.type).head? = some "Nullable"
  plain : pair = datePair p ↔ (m.wrappersAround p.type).head? ≠ some "Nullable"

theorem guardsOutermost_of_isDate {mapped : Mapped} (h : m.map p.type = .ok mapped)
    (date : mapped.isDate = true) (made : queryPair m.map p = .ok pair) :
    GuardsOutermost m p pair := by
  have outermost := Mapping.head?_wrappersAround_iff ((Mapping.isDate_iff h).1 date)
  rw [queryPair_of_isDate h date] at made
  obtain rfl := Except.ok.inj made
  by_cases nullable : p.type.simpleName = "Nullable"
  · rw [if_pos nullable]
    exact ⟨by simp [outermost, nullable], by simp [outermost, nullable, guardedPair_ne_datePair]⟩
  · rw [if_neg nullable]
    exact ⟨by simp [outermost, nullable, (guardedPair_ne_datePair p).symm],
      by simp [outermost, nullable]⟩

theorem GuardsOutermost.guardsOptional_iff (h : GuardsOutermost m p pair) :
    GuardsOptional m p pair ↔ ("Nullable" ∈ m.wrappersAround p.type →
      (m.wrappersAround p.type).head? = some "Nullable") := by
  rw [GuardsOptional]
  split_ifs with nullable
  · simp [h.guarded, nullable]
  · have bare : (m.wrappersAround p.type).head? ≠ some "Nullable" :=
      fun outermost => nullable (List.mem_of_mem_head? outermost)
    simp [h.plain, nullable, bare]

section Build

variable {base resource method : String} {verb : Verb} {ps : List Parameter}

theorem exists_pairs (mappable : ∀ p ∈ ps, m.IsMappable p.type) :
    ∃ pairs, ps.mapM (queryPair m.map) = .ok pairs := by
  rw [← error?_eq_none_iff, error?_mapM, List.findSome?_eq_none_iff]
  intro p hp
  rw [queryPair, error?_bind_pure]
  exact error?_eq_none_iff.2 (mappable p hp)

theorem build_of_pairs {pairs : List String} (other : verb ≠ .post)
    (h : ps.mapM (queryPair m.map) = .ok pairs) :
    build m.map base resource method verb ps =
      .ok { path := combineUri [base, Naming.camelize resource, Naming.camelize method]
            query := "&".intercalate pairs } := by
  rw [build, if_neg other, h]
  rfl

def buildAfter (m : Mapping) (earlier : List HostType) (base resource method : String) (verb : Verb)
    (ps : List Parameter) : Except Unmappable Url :=
  ((build m.mapRemembering base resource method verb ps).run.run ((m.mapEach earlier).run []).2).1

theorem buildAfter_eq (m : Mapping) (earlier : List HostType) :
    buildAfter m earlier base resource method verb ps =
      build m.map base resource method verb ps := by
  have faithful := (Mapping.steady_mapEach earlier [] (Memo.faithful_nil m)).2
  exact (Generation.steady_url Mapping.steady_mapRemembering base resource method verb ps _
    faithful).1

end Build

/-- An address with a query is made where every parameter has an expression, whatever was mapped
before. What the query says of a date is guarded just if the outermost wrapper is the nullable one,
which is as it should be unless only a wrapper further inside is. -/
theorem buildAfter_guards (m : Mapping) (earlier : List HostType) (base resource method : String)
    {verb : Verb} {ps : List Parameter} (other : verb ≠ .post)
    (mappable : ∀ p ∈ ps, m.IsMappable p.type) :
    ∃ pairs, buildAfter m earlier base resource method verb ps =
        .ok { path := combineUri [base, Naming.camelize resource, Naming.camelize method]
              query := "&".intercalate pairs } ∧
      List.Forall₂ (fun p pair => queryPair m.map p = .ok pair ∧
        ∀ mapped, m.map p.type = .ok mapped → mapped.isDate = true →
          GuardsOutermost m p pair ∧
          (GuardsOptional m p pair ↔ ("Nullable" ∈ m.wrappersAround p.type →
            (m.wrappersAround p.type).head? = some "Nullable"))) ps pairs := by
  obtain ⟨pairs, each⟩ := exists_pairs mappable
  refine ⟨pairs, (buildAfter_eq m earlier).trans (build_of_pairs other each), ?_⟩
  refine Pointwise.of_mapM each fun p _ pair made => ⟨made, fun mapped hmapped date => ?_⟩
  have outermost := guardsOutermost_of_isDate hmapped date made
  exact ⟨outermost, outermost.guardsOptional_iff⟩

theorem buildAfter_guards_tasks :
    let m : Mapping := { registry := ⟨["User"]⟩, overrides := [("ValueTask", "any")] }
    let date : HostType := { name := "System.DateTime" }
    let task : HostType := { name := "Task`1", arguments := [date] }
    let since : Parameter := ⟨"since", { name := "System.Nullable`1", arguments := [task] }⟩
    let before : Parameter := ⟨"before", task⟩
    ∃ url, buildAfter m [date, { name := "Stream" }] "/api" "Log" "GetLogs" .get [since, before] =
        .ok url ∧
      url.query =
        "since=$\x7bsince ? since.toISOString() : ''\x7d&before=$\x7bbefore.toISOString()\x7d" := by
  intro m date task since before
  have isDate : m.IsDate date := by decide +kernel
  have inner : m.IsWrapperOf task date := by decide +kernel
  have outer : m.IsWrapperOf since.type task := by decide +kernel
  have mappedBefore : m.map before.type = .ok _ :=
    (Mapping.map_of_isWrapperOf inner).trans (Mapping.map_of_isDate isDate)
  have mappedSince : m.map since.type = .ok _ :=
    (Mapping.map_of_isWrapperOf outer).trans mappedBefore
  have other : Verb.get ≠ .post := by decide
  have mappable : ∀ p ∈ [since, before], m.IsMappable p.type := by simp [Mapping.IsMappable, *]
  obtain ⟨pairs, made, each⟩ :=
    buildAfter_guards m [date, { name := "Stream" }] "/api" "Log" "GetLogs" other mappable
  refine ⟨_, made, ?_⟩
  obtain ⟨_, _, ⟨_, atSince⟩, later, rfl⟩ := List.forall₂_cons_left_iff.1 each
  obtain ⟨_, _, ⟨_, atBefore⟩, none, rfl⟩ := List.forall₂_cons_left_iff.1 later
  obtain rfl := List.forall₂_nil_left_iff.1 none
  have guarded := (atSince _ mappedSince rfl).1.guarded.2 (by decide +kernel)
  have plain := (atBefore _ mappedBefore rfl).1.plain.2 (by decide +kernel)
  rw [guarded, plain]
  rfl

/-- A task of a date that may be missing is mapped to a date, but has no guard. -/
theorem not_guardsOptional_task :
    let m : Mapping := {}
    let optional : HostType := { name := "Nullable", arguments := [{ name := "DateTime" }] }
    let p : Parameter := ⟨"from", { name := "Task", arguments := [optional] }⟩
    ∃ mapped url, m.map p.type = .ok mapped ∧ mapped.isDate = true ∧
      "Nullable" ∈ m.wrappersAround p.type ∧
      build m.map basePathReference "Log" "GetLogs" .get [p] = .ok url ∧
      url.query = "from=$\x7bfrom.toISOString()\x7d" ∧ ¬GuardsOptional m p url.query := by
  intro m optional p
  have date : m.IsDate { name := "DateTime" } := by decide +kernel
  have inner : m.IsWrapperOf optional { name := "DateTime" } := by decide +kernel
  have outer : m.IsWrapperOf p.type optional := by decide +kernel
  have mapped : m.map p.type = .ok _ := calc
    m.map p.type = m.map optional := Mapping.map_of_isWrapperOf outer
    _ = m.map { name := "DateTime" } := Mapping.map_of_isWrapperOf inner
    _ = .ok _ := Mapping.map_of_isDate date
  have nullable : "Nullable" ∈ m.wrappersAround p.type := by decide +kernel
  have pairs : [p].mapM (queryPair m.map) = .ok [datePair p] := by
    have bare : p.type.simpleName ≠ "Nullable" := by decide +kernel
    rw [List.mapM_cons, queryPair_of_isDate mapped rfl, if_neg bare]
    rfl
  refine ⟨_, _, mapped, rfl, nullable, build_of_pairs (by decide) pairs, ?_, ?_⟩
  · decide +kernel
  · rw [GuardsOptional, if_pos nullable, String.intercalate_singleton]
    exact (guardedPair_ne_datePair p).symm

end Url

end ServiceClient

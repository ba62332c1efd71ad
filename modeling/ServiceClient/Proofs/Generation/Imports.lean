import ServiceClient.Proofs.Generation.Conservation
import ServiceClient.Proofs.Generation.Marking
import ServiceClient.Proofs.TypeScript.Construction

namespace ServiceClient

def Entry.Constructs (e : Entry) (name : String) : Prop :=
  e.resultMapping = "new " ++ name ++ "(res.json())" ∨
    e.resultMapping = "res.json().map(r => new " ++ name ++ "(r))"

namespace Generation

open TypeScript

variable {m : Mapping} {s : Settings} {snapshot : Snapshot}

theorem resultMapping_of_plainEntry {resource : String} {method : Method} {verb : Verb} {e : Entry}
    (h : plainEntry m resource method verb = .ok e) :
    ∃ mapped, m.map method.returnType = .ok mapped ∧ e.resultMapping = mapped.resultMapping := by
  obtain ⟨_, mapped, made⟩ := exists_isMadeOf h
  exact ⟨mapped, made.result, made.resultMapping⟩

theorem constructs_iff {resource : String} {method : Method} {verb : Verb} {e : Entry}
    (h : plainEntry m resource method verb = .ok e) (name : String) :
    e.Constructs name ↔
      ∃ model, m.constructed? method.returnType = some model ∧ model.simpleName = name := by
  obtain ⟨mapped, hmapped, result⟩ := resultMapping_of_plainEntry h
  rw [Entry.Constructs, result, Mapping.resultMapping_of_map hmapped, Mapping.constructed?]
  cases m.one? method.returnType with
  | some model => simp [one_ne_each]
  | none =>
    cases m.each? method.returnType with
    | some model => simp [(one_ne_each name model.simpleName).symm]
    | none => simp [(one_ne_plain name).symm, (each_ne_plain name).symm]

theorem mem_emittedMethods {c : Controller} {method : Method} (exposed : method ∈ c.exposed)
    (call : IsCall m method) : method ∈ emittedMethods m s c := by
  obtain ⟨e, same⟩ := exists_entry_of_isCall c.name (c.resourceName s.controllerSuffix) call
  simp [emittedMethods, exposed, same]

theorem constructs_groupingOf_iff (m : Mapping) (s : Settings) (c : Controller) (name : String) :
    (∃ e ∈ (groupingOf m s c).entries, e.Constructs name) ↔
      ∃ method ∈ emittedMethods m s c, ∃ model,
        m.constructed? method.returnType = some model ∧ model.simpleName = name := by
  have made := forall₂_entries m s c
  constructor
  · rintro ⟨e, he, constructs⟩
    obtain ⟨method, hmethod, _, hentry⟩ := Pointwise.exists_of_mem made he
    exact ⟨method, hmethod, (constructs_iff hentry name).1 constructs⟩
  · rintro ⟨method, hmethod, constructed⟩
    obtain ⟨e, he, _, hentry⟩ := Pointwise.exists_of_mem made.flip hmethod
    exact ⟨e, he, (constructs_iff hentry name).2 constructed⟩

/-- Whether every type that is marked by itself, and is the model of a result, is registered. -/
def MarksRegistered (s : Settings) (raw : Snapshot) : Prop :=
  ∀ c ∈ raw.controllers, ¬IsDropped s c → ∀ method ∈ emittedMethods (mapping s raw) s c, ∀ model,
    (mapping s raw).constructed? method.returnType = some model → model.isModel = true →
      model.simpleName ∈ raw.models

theorem constructs_registered_iff (s : Settings) (raw : Snapshot) :
    (∀ grouping ∈ groupings s raw, ∀ e ∈ grouping.entries, ∀ name,
        e.Constructs name → name ∈ raw.models) ↔ MarksRegistered s raw := by
  constructor
  · intro imported c hc stays method hmethod model constructed _
    obtain ⟨e, he, constructs⟩ := (constructs_groupingOf_iff _ s c model.simpleName).2
      ⟨method, hmethod, model, constructed, rfl⟩
    exact imported _ (List.mem_map_of_mem (mem_kept.2 ⟨hc, stays⟩)) e he _ constructs
  · intro registered grouping hgrouping e he name constructs
    obtain ⟨c, hc, rfl⟩ := List.mem_map.1 hgrouping
    obtain ⟨hc, stays⟩ := mem_kept.1 hc
    obtain ⟨method, hmethod, model, constructed, rfl⟩ :=
      (constructs_groupingOf_iff _ s c name).1 ⟨e, he, constructs⟩
    -- What makes a type a model is its mark or the registry, and the registry is what is imported.
    have isModel := Mapping.isModel_of_constructed? constructed
    rw [Registry.isModel, Bool.or_eq_true] at isModel
    rcases isModel with marked | known
    · exact registered c hc stays method hmethod model constructed marked
    · simpa [mapping, Snapshot.registry] using known

/-- The module imports every class that it constructs just if each type that the data itself marks
is registered, as far as a result is made of it. -/
theorem generate_imports {source : String} {v : Value} {g : Generation}
    (read : Snapshot.ofSource source v = .ok snapshot) (enabled : s.isEnabled = true)
    (h : generate s snapshot = .ok g) :
    g.moduleText = textOf s snapshot.registry (groupings s snapshot) ∧
      ∃ raw, Snapshot.ofValue v = .accepted raw ∧ snapshot = raw.markModels ∧
        ((∀ grouping ∈ groupings s snapshot, ∀ e ∈ grouping.entries, ∀ name,
          e.Constructs name → name ∈ snapshot.models) ↔ MarksRegistered s raw) := by
  have text : g.moduleText = textOf s snapshot.registry (groupings s snapshot) := by
    rw [eq_assembled_of_generate enabled h, assembled]
  obtain ⟨raw, accepted, rfl⟩ := Snapshot.exists_raw_of_ofSource read
  refine ⟨text, raw, accepted, rfl, ?_⟩
  rw [groupings_markModels]
  exact constructs_registered_iff s raw

def order : HostType := { name := "Order", isModel := true }

def getOrder : Method := { name := "GetOrder", returnType := order }

def orderController : Controller := { name := "OrderController", methods := [getOrder] }

def orders (models : List String) : Snapshot := ⟨models, [orderController]⟩

def ordersData (models : List String) : Value :=
  .mapping [(.text "models", .list (models.map .text)),
    (.text "controllers", .list [.mapping [(.text "name", .text "OrderController"),
      (.text "methods", .list [.mapping [(.text "name", .text "GetOrder"),
        (.text "return_type",
          .mapping [(.text "name", .text "Order"), (.text "is_model", .bool true)])]])]])]

section Orders

open Validation Validation.Checked

theorem ofValue_order : HostType.ofValue
    (.mapping [(.text "name", .text "Order"), (.text "is_model", .bool true)]) =
      .accepted order :=
  rfl

theorem ofValue_orders {models : List String} (h : models = [] ∨ models = ["Order"]) :
    Snapshot.ofValue (ordersData models) = .accepted (orders models) := by
  have result := congrArg (under (.field "return_type")) ofValue_order
  simp [Snapshot.ofValue, Controller.ofValue, Method.ofValue, ordersData, entries, list, eachFrom,
    Value.entries?, Value.items?, Value.opened, andThen, fieldOr, Value.get?, result]
  rcases h with rfl | rfl
  · decide +kernel
  · decide +kernel

theorem ofSource_orders {models : List String} (h : models = [] ∨ models = ["Order"]) :
    Snapshot.ofSource "<dict>" (ordersData models) = .ok (orders models) := by
  rw [Snapshot.ofSource, ofValue_orders h]
  rcases h with rfl | rfl
  · decide +kernel
  · decide +kernel

end Orders

theorem constructed?_order (models : List String) :
    (mapping { basePath := "/api" } (orders models)).constructed? order = some order :=
  Mapping.constructed?_of_isModel ⟨rfl, rfl⟩

theorem generate_imports_registered :
    let s : Settings := { basePath := "/api" }
    ∃ g, Snapshot.ofSource "<dict>" (ordersData ["Order"]) = .ok (orders ["Order"]) ∧
      generate s (orders ["Order"]) = .ok g ∧
      ∀ grouping ∈ groupings s (orders ["Order"]), ∀ e ∈ grouping.entries, ∀ name,
        e.Constructs name → name ∈ ["Order"] := by
  intro s
  have read := ofSource_orders (.inr rfl)
  have returns : generate s (orders ["Order"]) = .ok (assembled s (orders ["Order"])) :=
    generate_of_no_fault rfl (by decide +kernel)
  obtain ⟨_, raw, accepted, _, imports⟩ := generate_imports read rfl returns
  rw [ofValue_orders (.inr rfl)] at accepted
  cases accepted
  refine ⟨_, read, returns, imports.2 fun c hc _ method hmethod model constructed _ => ?_⟩
  obtain rfl := List.mem_singleton.1 hc
  obtain rfl : method = getOrder :=
    List.mem_singleton.1 (List.mem_of_mem_filter (List.mem_of_mem_filter hmethod))
  cases (constructed?_order _).symm.trans constructed
  exact List.mem_singleton.2 (by decide)

/-- A class that the data marks without registering it is constructed, but not imported. -/
theorem generate_imports_missing :
    let s : Settings := { basePath := "/api" }
    ∃ g, Snapshot.ofSource "<dict>" (ordersData []) = .ok (orders []) ∧ s.isEnabled = true ∧
      generate s (orders []) = .ok g ∧
      g.moduleText = textOf s (orders []).registry (groupings s (orders [])) ∧
      ∃ grouping ∈ groupings s (orders []), ∃ e ∈ grouping.entries,
        e.Constructs "Order" ∧ "Order" ∉ (orders []).models := by
  intro s
  have returns : generate s (orders []) = .ok (assembled s (orders [])) :=
    generate_of_no_fault rfl (by decide +kernel)
  have text : (assembled s (orders [])).moduleText =
      textOf s (orders []).registry (groupings s (orders [])) := by
    rw [assembled]
  refine ⟨_, ofSource_orders (.inl rfl), rfl, returns, text, ?_⟩
  have written : orderController ∈ kept s (orders []) :=
    mem_kept.2 ⟨List.mem_singleton_self _, by decide⟩
  have emitted : getOrder ∈ emittedMethods (mapping s (orders [])) s orderController :=
    mem_emittedMethods (List.mem_singleton_self _)
      ⟨⟨.get, by decide⟩, rfl, _, Mapping.map_of_isModel ⟨rfl, rfl⟩⟩
  obtain ⟨e, he, constructs⟩ := (constructs_groupingOf_iff _ s _ "Order").2
    ⟨getOrder, emitted, order, constructed?_order [], by decide⟩
  exact ⟨_, List.mem_map_of_mem written, e, he, constructs, List.not_mem_nil⟩

end Generation

end ServiceClient

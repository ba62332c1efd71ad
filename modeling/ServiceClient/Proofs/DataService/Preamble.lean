import ServiceClient.Proofs.DataService.Layout
import ServiceClient.Proofs.Registry
import ServiceClient.Proofs.Text.Split
import ServiceClient.Proofs.TypeScript.Expression
import ServiceClient.Proofs.TypeScript.Literal

namespace ServiceClient.DataService

open TypeScript

def IsAdmitted (name : String) : Prop :=
  isIdentifier name = true ∨
    ∃ identifier, isIdentifier identifier = true ∧ name = identifier ++ "\n"

/-- The class is at fault before the models, and of these the least. -/
inductive IsFault (className : String) (registry : Registry) : PreambleError → Prop
  | className (bad : ¬IsAdmitted className) : IsFault className registry (.className className)
  | modelName {name : String} (good : IsAdmitted className) (known : name ∈ registry.models)
    (bad : ¬IsAdmitted name)
    (least : ∀ other ∈ registry.models, ¬IsAdmitted other → name ≤ other) :
    IsFault className registry (.modelName name)

theorem isAdmitted_iff {name : String} : IsAdmitted name ↔ isIdentifierLine name = true := by
  rw [IsAdmitted, isIdentifierLine, Bool.or_eq_true, Bool.and_eq_true, decide_eq_true_iff]
  refine or_congr_right ⟨?_, ?_⟩
  · rintro ⟨identifier, h, rfl⟩
    have whole : (identifier ++ "\n").toList = identifier.toList ++ ['\n'] := String.toList_append
    rw [whole, List.getLast?_concat, List.dropLast_concat]
    exact ⟨rfl, h⟩
  · rintro ⟨last, h⟩
    obtain ⟨before, whole⟩ := List.getLast?_eq_some_iff.1 last
    rw [whole, List.dropLast_concat] at h
    refine ⟨.ofList before, ?_, ?_⟩
    · rwa [isIdentifier, String.toList_ofList]
    · rw [← String.toList_inj, whole, String.toList_append, String.toList_ofList]
      rfl

theorem isIdentifierLine_eq_false_iff {name : String} :
    (!isIdentifierLine name) = true ↔ ¬IsAdmitted name := by
  rw [isAdmitted_iff, Bool.not_eq_true', Bool.not_eq_true]

theorem lineFeed_not_mem {name : String} (h : isIdentifier name = true) :
    '\n' ∉ name.toList := by
  intro member
  have kind := isIdentifierChar_of_mem h member
  contradiction

theorem IsAdmitted.isIdentifier_iff {name : String} (h : IsAdmitted name) :
    isIdentifier name = true ↔ '\n' ∉ name.toList := by
  refine ⟨lineFeed_not_mem, fun one => ?_⟩
  rcases h with identifier | ⟨identifier, -, rfl⟩
  · exact identifier
  · exact absurd (by simp) one

section Faults

variable {className : String} {registry : Registry} {e : PreambleError}

theorem fault?_eq_none_iff :
    fault? className registry = none ↔
      IsAdmitted className ∧ ∀ name ∈ registry.models, IsAdmitted name := by
  rw [fault?]
  split
  · next bad =>
    exact iff_of_false (Option.some_ne_none _) fun h => isIdentifierLine_eq_false_iff.1 bad h.1
  · next good =>
    rw [isIdentifierLine_eq_false_iff, not_not] at good
    rw [Option.map_eq_none_iff, List.find?_eq_none]
    simp [good, isAdmitted_iff]

theorem fault?_eq_some_iff : fault? className registry = some e ↔ IsFault className registry e := by
  have first (name : String) : registry.sortedNames.find? (!isIdentifierLine ·) = some name ↔
      name ∈ registry.models ∧ ¬IsAdmitted name ∧
        ∀ other ∈ registry.models, ¬IsAdmitted other → name ≤ other := by
    have sorted : registry.sortedNames.Pairwise fun a b => Text.inOrder a b = true :=
      Text.pairwise_sort _
    rw [Text.find?_eq_some_iff_of_pairwise sorted]
    simp only [isIdentifierLine_eq_false_iff, Registry.mem_sortedNames]
  rw [fault?]
  split
  · next bad =>
    rw [isIdentifierLine_eq_false_iff] at bad
    constructor
    · rintro ⟨⟩
      exact .className bad
    · intro h
      cases h with
      | className => rfl
      | modelName good => exact absurd good bad
  · next good =>
    rw [isIdentifierLine_eq_false_iff, not_not] at good
    rw [Option.map_eq_some_iff]
    constructor
    · rintro ⟨name, found, rfl⟩
      obtain ⟨known, bad, least⟩ := (first name).1 found
      exact .modelName good known bad least
    · intro h
      cases h with
      | className bad => exact absurd good bad
      | modelName _ known bad least => exact ⟨_, (first _).2 ⟨known, bad, least⟩, rfl⟩

end Faults

section Emission

variable {className importPath basePath : String} {registry : Registry}
  {groupings : List Grouping}

theorem emit_eq_error_iff {e : PreambleError} :
    emit className importPath basePath registry groupings = .error e ↔
      fault? className registry = some e := by
  rw [emit]
  split <;> simp [*]

theorem emit_eq_ok_iff {text : String} :
    emit className importPath basePath registry groupings = .ok text ↔
      fault? className registry = none ∧
        text = unlines (lines className importPath basePath registry groupings) := by
  rw [emit]
  split <;> simp [*, unlines, eq_comm]

theorem toList_lineFeed : "\n".toList = ['\n'] := rfl

theorem split_unlines (lines : List String) :
    Text.split "\n" (unlines lines) = lines.flatMap (Text.split "\n") ++ [""] := by
  have ended := Text.split_join_append toList_lineFeed lines ""
  rwa [String.append_empty, show Text.split "\n" "" = [""] by decide +kernel] at ended

theorem exists_split_lines (className importPath basePath : String) (registry : Registry)
    (groupings : List Grouping) : ∃ later,
    Text.split "\n" (unlines (lines className importPath basePath registry groupings)) =
      preamble ++ registry.sortedNames.flatMap
        (fun name => Text.split "\n" (importLine importPath name))
        ++ "" :: "@Injectable()" :: later := by
  have fixed : preamble.flatMap (Text.split "\n") = preamble := by decide +kernel
  have begun : ["", "@Injectable()"].flatMap (Text.split "\n") = ["", "@Injectable()"] := by
    decide +kernel
  obtain ⟨rest, parts⟩ := exists_lines className importPath basePath registry groupings
  obtain ⟨more, opens⟩ : ∃ more, opening className basePath = ["", "@Injectable()"] ++ more :=
    ⟨_, rfl⟩
  refine ⟨(more ++ rest).flatMap (Text.split "\n") ++ [""], ?_⟩
  rw [split_unlines, parts, opens, List.append_assoc ["", _], List.flatMap_append,
    List.flatMap_append, List.flatMap_append, List.flatMap_map, fixed, begun]
  simp only [List.append_assoc, List.cons_append, List.nil_append]

theorem split_importLine_iff {name : String} (h : IsAdmitted name) :
    Text.split "\n" (importLine importPath name) = [importLine importPath name] ↔
      isIdentifier name = true ∧ '\n' ∉ importPath.toList := by
  have escapedPath : '\n' ∈ (escaped importPath).toList ↔ '\n' ∈ importPath.toList :=
    mem_escaped_iff (by decide)
  -- A line feed in the line is one of the name or of the path.
  rw [Text.split_eq_singleton_iff toList_lineFeed, h.isIdentifier_iff]
  simp [importLine, escapedPath]

end Emission

/-- A module is refused just if the class or a model has a name that is not admitted: for the class,
or else for the least of these models. In a module, the imports of all models follow the fixed lines
in order, and each is one line if the name is an identifier and the path is one line. -/
theorem emit_admits (className importPath basePath : String) (registry : Registry)
    (groupings : List Grouping) :
    ((∃ e, emit className importPath basePath registry groupings = .error e) ↔
      ¬IsAdmitted className ∨ ∃ name ∈ registry.models, ¬IsAdmitted name) ∧
    (∀ e, emit className importPath basePath registry groupings = .error e ↔
      IsFault className registry e) ∧
    ∀ text, emit className importPath basePath registry groupings = .ok text →
      ∃ names later : List String, names.Pairwise (· < ·) ∧
        (∀ name, name ∈ names ↔ name ∈ registry.models) ∧
        Text.split "\n" text = preamble
          ++ names.flatMap (fun name => Text.split "\n" (importLine importPath name))
          ++ "" :: "@Injectable()" :: later ∧
        ∀ name ∈ names,
          Text.split "\n" (importLine importPath name) = [importLine importPath name] ↔
            isIdentifier name = true ∧ '\n' ∉ importPath.toList := by
  simp only [emit_eq_error_iff]
  refine ⟨?_, fun e => fault?_eq_some_iff, fun text h => ?_⟩
  · rw [← Option.isSome_iff_exists, ← Option.ne_none_iff_isSome, Ne, fault?_eq_none_iff, not_and_or,
      not_forall]
    simp only [not_forall, exists_prop]
  · obtain ⟨sound, rfl⟩ := emit_eq_ok_iff.1 h
    have admitted := (fault?_eq_none_iff.1 sound).2
    obtain ⟨later, parts⟩ :=
      exists_split_lines className importPath basePath registry groupings
    refine ⟨registry.sortedNames, later, registry.pairwise_sortedNames,
      fun name => Registry.mem_sortedNames, parts, fun name hname => ?_⟩
    exact split_importLine_iff (admitted name (Registry.mem_sortedNames.1 hname))

theorem emit_admits_users :
    ∃ text later, emit "DataService" "../models" "/api" ⟨["User", "Order", "User"]⟩ [] = .ok text ∧
      Text.split "\n" text = preamble ++ ["import \x7b Order \x7d from '../models';",
        "import \x7b User \x7d from '../models';"] ++ "" :: "@Injectable()" :: later := by
  obtain ⟨-, -, written⟩ :=
    emit_admits "DataService" "../models" "/api" ⟨["User", "Order", "User"]⟩ []
  have sound : fault? "DataService" ⟨["User", "Order", "User"]⟩ = none :=
    fault?_eq_none_iff.2 ⟨.inl (by decide +kernel), by simp [isAdmitted_iff]; decide +kernel⟩
  obtain ⟨text, emitted⟩ :
      ∃ text, emit "DataService" "../models" "/api" ⟨["User", "Order", "User"]⟩ [] = .ok text :=
    ⟨_, emit_eq_ok_iff.2 ⟨sound, rfl⟩⟩
  obtain ⟨names, later, sorted, known, parts, single⟩ := written _ emitted
  have two : ["Order", "User"].Pairwise (· < ·) := by decide +kernel
  have order : names = ["Order", "User"] := by
    refine List.Perm.eq_of_pairwise (fun a b _ _ less more => absurd less (String.lt_asymm more))
      sorted two ?_
    refine (List.perm_ext_iff_of_nodup (sorted.imp String.ne_of_lt) (by decide +kernel)).2 ?_
    simp [known, or_comm]
  have imports : ["Order", "User"].flatMap
      (fun name => Text.split "\n" (importLine "../models" name)) =
      ["import \x7b Order \x7d from '../models';", "import \x7b User \x7d from '../models';"] := by
    decide +kernel
  exact ⟨text, later, emitted, by rw [parts, order, imports]⟩

/-- A model whose name ends in a line feed is taken, and its import is cut in two lines. -/
theorem emit_takes_line_feed :
    isIdentifier "Order\n" = false ∧
      (∃ text, emit "DataService" "." "/api" ⟨["Order\n"]⟩ [] = .ok text) ∧
      Text.split "\n" (importLine "." "Order\n") = ["import \x7b Order", " \x7d from '.';"] := by
  refine ⟨by decide +kernel, ⟨_, emit_eq_ok_iff.2 ⟨?_, rfl⟩⟩, by decide +kernel⟩
  have admitted : IsAdmitted "Order\n" := isAdmitted_iff.2 (by decide +kernel)
  exact fault?_eq_none_iff.2 ⟨.inl (by decide +kernel), by simpa using admitted⟩

end ServiceClient.DataService

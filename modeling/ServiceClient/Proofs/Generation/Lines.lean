import ServiceClient.Proofs.DataService.Layout
import ServiceClient.Proofs.Generation.Method
import ServiceClient.Proofs.Pointwise
import ServiceClient.Proofs.Text.Split

/-!
What a module says of a method and of a controller, down to the text: the line of a method bears its
name, its parameters, its result and the address of its request, and the lines of the methods stand
between that of the member and the one that ends it.
-/

namespace ServiceClient.Generation

open TypeScript

def IsTyped (m : Mapping) (p : Parameter) (text : String) : Prop :=
  ∃ mapped, m.map p.type = .ok mapped ∧ text = p.name ++ ": " ++ mapped.expression

def IsQueried (m : Mapping) (p : Parameter) (text : String) : Prop :=
  ∃ mapped, m.map p.type = .ok mapped ∧ text = p.name ++ "=" ++ Url.queryValue p mapped.isDate

/-- What a request is made with, an address and the argument after it. All parameters are in the
address, or the first of them is the body. -/
inductive IsRequest (m : Mapping) (path : String) :
    Verb → List Parameter → (address argument : String) → Prop
  | bodiless : IsRequest m path .post [] path ", null"
  | nameless : p.name = "" → IsRequest m path .post (p :: ps) path ", null"
  | body : p.name ≠ "" → IsRequest m path .post (p :: ps) path (", " ++ p.name)
  | plain : verb ≠ .post → IsRequest m path verb [] path ""
  | query : verb ≠ .post → List.Forall₂ (IsQueried m) (p :: ps) pairs →
      IsRequest m path verb (p :: ps) (path ++ "?" ++ "&".intercalate pairs) ""

def IsLine (m : Mapping) (resource : String) (method : Method) (line : String) : Prop :=
  ∃ verb parameters result address argument,
    method.resolvedVerb = some verb ∧
    List.Forall₂ (IsTyped m) method.parameters parameters ∧
    m.map method.returnType = .ok result ∧
    IsRequest m (combineUri
        [Url.basePathReference, Naming.camelize resource, Naming.camelize method.name])
      verb method.parameters address argument ∧
    line = "\t\t" ++ Naming.camelize method.name ++ ": (" ++ ", ".intercalate parameters
      ++ "): Observable<" ++ result.expression ++ "> => this.http." ++ verb.clientMethod ++ "(`"
      ++ address ++ "`" ++ argument ++ ").map((res: Response) => " ++ result.resultMapping
      ++ ").catch(this.handleError),"

/-- The lines of a controller of which these methods are written. -/
def IsBlock (m : Mapping) (s : Settings) (c : Controller) (methods : List Method)
    (block : List String) : Prop :=
  ∃ lines, List.Forall₂ (IsLine m (c.resourceName s.controllerSuffix)) methods lines ∧
    block = ("\t" ++ Naming.camelize (c.resourceName s.controllerSuffix) ++ " = \x7b")
      :: lines ++ ["\t\x7d;"]

variable {m : Mapping} {s : Settings} {c : Controller} {resource : String} {method : Method}

theorem isTyped_of_signaturePart {p : Parameter} {text : String}
    (h : Entry.signaturePart m.map p = .ok text) : IsTyped m p text := by
  obtain ⟨mapped, hmapped, h⟩ := Outcome.bind_eq_ok_iff.1 h
  cases h
  exact ⟨mapped, hmapped, rfl⟩

theorem isQueried_of_queryPair {p : Parameter} {text : String}
    (h : Url.queryPair m.map p = .ok text) : IsQueried m p text := by
  obtain ⟨mapped, hmapped, h⟩ := Outcome.bind_eq_ok_iff.1 h
  cases h
  exact ⟨mapped, hmapped, rfl⟩

theorem IsQueried.ne_empty {p : Parameter} {text : String} (h : IsQueried m p text) :
    text ≠ "" := by
  obtain ⟨_, _, rfl⟩ := h
  simp

theorem isRequest_of_build {e : Entry} {ps : List Parameter} {base name : String}
    (h : Url.build m.map base resource name e.verb ps = .ok e.url) :
    IsRequest m (combineUri [base, Naming.camelize resource, Naming.camelize name]) e.verb ps
      e.url.render e.bodyArgument := by
  rw [← path_of_build h, Url.render]
  obtain ⟨post, query, body, _⟩ | ⟨other, body, _, pairs, hpairs, query⟩ := build_cases h
  · rw [if_pos query, Entry.bodyArgument, if_pos post, body, post]
    cases ps with
    | nil => exact .bodiless
    | cons p ps =>
      by_cases named : p.name = ""
      · simpa [named] using .nameless named
      · simpa [named] using .body named
  · rw [Entry.bodyArgument, if_neg other, query]
    have queried : List.Forall₂ (IsQueried m) ps pairs :=
      Pointwise.of_mapM hpairs fun _ _ _ => isQueried_of_queryPair
    cases queried with
    | nil => exact .plain other
    | cons first rest =>
      rw [if_neg (Text.intercalate_cons_ne_empty first.ne_empty)]
      exact .query other (.cons first rest)

theorem isLine_render {e : Entry} (known : method.resolvedVerb = some e.verb)
    (h : plainEntry m resource method e.verb = .ok e) : IsLine m resource method e.render := by
  obtain ⟨parameters, result, made⟩ := exists_isMadeOf h
  refine ⟨e.verb, parameters, result, e.url.render, e.bodyArgument, known, ?_, made.result,
    isRequest_of_build made.url, ?_⟩
  · exact Pointwise.of_mapM made.signature fun _ _ _ => isTyped_of_signaturePart
  · unfold Entry.render
    rw [made.name, made.parameters, made.returnType, made.resultMapping]

theorem isBlock_written {g : Grouping} {methods : List Method}
    (name : g.resourceName = c.resourceName s.controllerSuffix)
    (entries : List.Forall₂ (fun method e => method.resolvedVerb = some e.verb ∧
      plainEntry m g.resourceName method e.verb = .ok e) methods g.entries) :
    IsBlock m s c methods g.written := by
  rw [name] at entries
  refine ⟨g.entries.map Entry.render, ?_, ?_⟩
  · rw [List.forall₂_map_right_iff]
    exact entries.imp fun _ _ h => isLine_render h.1 h.2
  · rw [Grouping.written, Grouping.memberName, name]
    rfl

def textWith (s : Settings) (models body : List String) : String :=
  String.join ((DataService.preamble
    ++ (Snapshot.registry ⟨models, []⟩).sortedNames.map (DataService.importLine s.modelImportPath)
    ++ DataService.opening s.moduleName s.apiRelativePath ++ body ++ [""]
    ++ DataService.errorHandler ++ ["\x7d"]).map (· ++ "\n"))

end ServiceClient.Generation

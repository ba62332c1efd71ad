import ServiceClient.Url

namespace ServiceClient

structure Entry where
  sourceName : String
  name : String
  parameters : String := ""
  returnType : String := "void"
  verb : Verb := .get
  url : Url
  resultMapping : String := "res.json()"
  deriving DecidableEq

/-- The expression for the result: a model is constructed, a collection of models element by
element, and all else is the response as it came. A model without a name counts as `None`. -/
def TypeScript.Mapped.resultMapping (mapped : Mapped) : String :=
  let model := mapped.modelName.getD "None"
  if mapped.isModelCollection then "res.json().map(r => new " ++ model ++ "(r))"
  else if mapped.isModel then "new " ++ model ++ "(res.json())"
  else "res.json()"

namespace Entry

def bodyArgument (e : Entry) : String :=
  if e.verb = .post then
    match e.url.body with
    | some "" | none => ", null"
    | some body => ", " ++ body
  else ""

def render (e : Entry) : String :=
  "\t\t" ++ e.name ++ ": (" ++ e.parameters ++ "): Observable<" ++ e.returnType ++ "> => this.http."
    ++ e.verb.clientMethod ++ "(`" ++ e.url.render ++ "`" ++ e.bodyArgument
    ++ ").map((res: Response) => " ++ e.resultMapping ++ ").catch(this.handleError),"

/-- The line of an entry holds its name, its parameters and its address, in this order. -/
theorem exists_render (e : Entry) : ∃ between after,
    e.render = "\t\t" ++ e.name ++ ": (" ++ e.parameters ++ "): Observable<" ++ between ++ "(`"
      ++ e.url.render ++ "`" ++ after := by
  refine ⟨e.returnType ++ "> => this.http." ++ e.verb.clientMethod, e.bodyArgument
    ++ ").map((res: Response) => " ++ e.resultMapping ++ ").catch(this.handleError),", ?_⟩
  unfold render
  simp only [String.append_assoc]

variable {m : Type → Type} [Monad m]

def signaturePart (map : HostType → m TypeScript.Mapped) (p : Parameter) : m String := do
  return p.name ++ ": " ++ (← map p.type).expression

def build (map : HostType → m TypeScript.Mapped) (method : Method) (verb : Verb) (url : Url) :
    m Entry := do
  let parameters ← method.parameters.mapM (signaturePart map)
  let result ← map method.returnType
  return {
    sourceName := method.name
    name := Naming.camelize method.name
    parameters := ", ".intercalate parameters
    returnType := result.expression
    verb, url
    resultMapping := result.resultMapping }

end Entry

end ServiceClient

import ServiceClient.Proofs.DataService.Layout
import ServiceClient.Proofs.Generation.Plain
import ServiceClient.Proofs.TypeScript.Literal
import ServiceClient.Settings.Reading

namespace ServiceClient

namespace DataService

open TypeScript

/-- Whether a text goes on after `before` with the literal of `value` and the end of the statement,
and what comes of it where literals are read. -/
def HoldsLiteral (text before value : String) : Prop :=
  ∃ after, text = before ++ quoted value ++ ";\n" ++ after ∧
    readLiteral (quoted value ++ ";\n" ++ after).toList =
      if HasLineBreak value then none else some (value.toList, (";\n" ++ after).toList)

def beforeImport (importPath : String) (earlier : List String) (model : String) : String :=
  unlines (preamble ++ earlier.map (importLine importPath))
    ++ ("import \x7b " ++ model ++ " \x7d from ")

def beforeBasePath (className importPath : String) (models : List String) : String :=
  unlines (preamble ++ models.map (importLine importPath) ++ ["", "@Injectable()",
    "export class " ++ className ++ " \x7b", "\tconstructor(private http: Http) \x7b\x7d", ""])
    ++ "\tapiRelativePath: string = "

theorem quoted_eq (text : String) : quoted text = "'" ++ (escaped text ++ "'") :=
  String.append_assoc

theorem holdsLiteral_of_line (before after : List String) (lead value : String) :
    HoldsLiteral (unlines (before ++ (lead ++ quoted value ++ ";") :: after))
      (unlines before ++ lead) value := by
  refine ⟨unlines after, ?_, ?_⟩
  · rw [unlines, List.map_append, List.map_cons, String.join_append, String.join_cons]
    simp only [unlines, String.append_assoc]
    rfl
  · rw [String.append_assoc]
    exact readLiteral_quoted value _

theorem importLine_eq (importPath model : String) :
    importLine importPath model =
      "import \x7b " ++ model ++ " \x7d from " ++ quoted importPath ++ ";" := by
  rw [importLine, quoted_eq]
  simp only [String.append_assoc]
  rfl

section Lines

variable (className importPath basePath : String) (registry : Registry) (groupings : List Grouping)

theorem holdsLiteral_import {earlier later : List String} {model : String}
    (names : registry.sortedNames = earlier ++ model :: later) :
    HoldsLiteral (unlines (lines className importPath basePath registry groupings))
      (beforeImport importPath earlier model) importPath := by
  obtain ⟨rest, parts⟩ := exists_lines className importPath basePath registry groupings
  rw [names, List.map_append, List.map_cons, importLine_eq, ← List.append_assoc preamble,
    List.append_assoc _ (_ :: _), List.cons_append] at parts
  rw [parts]
  exact holdsLiteral_of_line _ _ _ importPath

theorem holdsLiteral_basePath :
    HoldsLiteral (unlines (lines className importPath basePath registry groupings))
      (beforeBasePath className importPath registry.sortedNames) basePath := by
  have field : "\tapiRelativePath: string = '" ++ escaped basePath ++ "';" =
      "\tapiRelativePath: string = " ++ quoted basePath ++ ";" := by
    rw [quoted_eq]
    simp only [String.append_assoc]
    rfl
  obtain ⟨rest, parts⟩ := exists_lines className importPath basePath registry groupings
  have opens : opening className basePath = ["", "@Injectable()",
      "export class " ++ className ++ " \x7b", "\tconstructor(private http: Http) \x7b\x7d", ""]
        ++ ["\tapiRelativePath: string = " ++ quoted basePath ++ ";", ""] := by
    rw [opening, field]
    rfl
  rw [opens, List.append_assoc _ _ rest, ← List.append_assoc] at parts
  rw [parts]
  exact holdsLiteral_of_line _ _ _ basePath

end Lines

end DataService

namespace Generation

open DataService TypeScript

theorem moduleText_assembled (s : Settings) (snapshot : Snapshot) :
    (assembled s snapshot).moduleText = unlines (lines s.moduleName s.modelImportPath
      s.apiRelativePath snapshot.registry (groupings s snapshot)) := by
  rw [assembled, textOf, unlines]

theorem holdsLiteral_assembled (s : Settings) (snapshot : Snapshot) :
    HoldsLiteral (assembled s snapshot).moduleText
      (beforeBasePath s.moduleName s.modelImportPath snapshot.registry.sortedNames)
      s.apiRelativePath := by
  rw [moduleText_assembled]
  exact holdsLiteral_basePath _ _ _ _ _

/-- The class holds the literal of the base path, and each import that of the path of the models.
They are read as these paths, up to their closing quotes, but not at all if a path has a line
break. -/
theorem generate_literals {s : Settings} {snapshot : Snapshot} {g : Generation}
    (enabled : s.isEnabled = true) (h : generate s snapshot = .ok g) :
    HoldsLiteral g.moduleText
      (beforeBasePath s.moduleName s.modelImportPath snapshot.registry.sortedNames)
      s.apiRelativePath ∧
    ∀ earlier model later, snapshot.registry.sortedNames = earlier ++ model :: later →
      HoldsLiteral g.moduleText (beforeImport s.modelImportPath earlier model)
        s.modelImportPath := by
  obtain rfl := eq_assembled_of_generate enabled h
  refine ⟨holdsLiteral_assembled s snapshot, fun earlier model later names => ?_⟩
  rw [moduleText_assembled]
  exact holdsLiteral_import _ _ _ _ _ names

theorem generate_literals_quotes :
    let s : Settings := { basePath := "/it's\\", modelImportPath := "\\'models\\\\" }
    ∃ g after, generate s ⟨["User"], []⟩ = .ok g ∧
      (g.moduleText = beforeBasePath "DataService" "\\'models\\\\" ["User"]
        ++ "'/it\\'s\\\\'" ++ ";\n" ++ after ∧
      readLiteral ("'/it\\'s\\\\'" ++ ";\n" ++ after).toList =
        some ("/it's\\".toList, (";\n" ++ after).toList)) ∧
      HoldsLiteral g.moduleText (beforeImport "\\'models\\\\" [] "User") "\\'models\\\\" := by
  intro s
  have returns : generate s ⟨["User"], []⟩ = .ok (assembled s ⟨["User"], []⟩) :=
    generate_of_no_fault rfl (by decide +kernel)
  have names : (Snapshot.registry ⟨["User"], []⟩).sortedNames = ["User"] :=
    List.mergeSort_singleton _
  have path : s.apiRelativePath = "/it's\\" := by decide +kernel
  have literal : quoted "/it's\\" = "'/it\\'s\\\\'" := by decide +kernel
  obtain ⟨⟨after, whole, read⟩, imports⟩ := generate_literals rfl returns
  rw [path, names, literal] at whole
  rw [path, literal, if_neg (by decide +kernel)] at read
  exact ⟨_, after, returns, ⟨whole, read⟩, imports [] "User" [] names⟩

/-- A base path with a line break, which settings accept: no literal is read in the class. -/
theorem generate_breaks_literal :
    ∃ s g after, Settings.ofProperties {} [(.text "base_path", .text "/a\nb")] = .ok s ∧
      generate s ⟨[], []⟩ = .ok g ∧
      g.moduleText = beforeBasePath "DataService" "." [] ++ "'/a\nb'" ++ ";\n" ++ after ∧
      readLiteral ("'/a\nb'" ++ ";\n" ++ after).toList = none := by
  let s : Settings := { basePath := "/a\nb" }
  have accepted : Settings.ofProperties {} [(.text "base_path", .text "/a\nb")] = .ok s := by
    decide +kernel
  have returns : generate s ⟨[], []⟩ = .ok (assembled s ⟨[], []⟩) :=
    generate_of_no_fault rfl (by decide +kernel)
  have path : s.apiRelativePath = "/a\nb" := by decide +kernel
  have literal : quoted "/a\nb" = "'/a\nb'" := by decide +kernel
  have names : (Snapshot.registry ⟨[], []⟩).sortedNames = [] := List.mergeSort_nil
  obtain ⟨after, whole, read⟩ := holdsLiteral_assembled s ⟨[], []⟩
  rw [path, names, literal] at whole
  rw [path, literal, if_pos (by decide +kernel)] at read
  exact ⟨s, _, after, accepted, returns, whole, read⟩

end Generation

end ServiceClient

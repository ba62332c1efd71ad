import ServiceClient.Path
import ServiceClient.Url

namespace ServiceClient

inductive DuplicatePolicy : Type
  | strict : DuplicatePolicy
  | lenient : DuplicatePolicy
  deriving DecidableEq, Repr

def DuplicatePolicy.all : List DuplicatePolicy := [.strict, .lenient]

def DuplicatePolicy.name : DuplicatePolicy → String
  | .strict => "strict"
  | .lenient => "lenient"

def DuplicatePolicy.ofName? (text : String) : Option DuplicatePolicy := all.find? (·.name = text)

structure Settings where
  basePath : String := ""
  outputDir : Path := {}
  moduleName : String := "DataService"
  controllerSuffix : String := "Controller"
  modelImportPath : String := "."
  duplicatePolicy : DuplicatePolicy := .strict
  typeOverrides : List (String × String) := []
  deriving DecidableEq

structure Environment where
  basePath : Option String := none
  outputDir : Option String := none
  mode : Option String := none

namespace Settings

def apiRelativePath (s : Settings) : String := normalizeBasePath s.basePath

def outputPath (s : Settings) : Path := s.outputDir.child (s.moduleName ++ ".ts")

def isEnabled (s : Settings) : Bool := s.basePath ≠ ""

end Settings

end ServiceClient

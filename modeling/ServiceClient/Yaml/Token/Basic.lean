import ServiceClient.Yaml.Scalar.Block
import ServiceClient.Yaml.Scalar.Plain
import ServiceClient.Yaml.Scalar.Quoted

namespace ServiceClient.Yaml

inductive Token : Type
  | version (major minor : Nat) : Token
  | tagHandle (handle start : String) : Token
  | otherDirective : Token
  | documentStart : Token
  | documentEnd : Token
  | blockSequenceStart : Token
  | blockMappingStart : Token
  | blockEnd : Token
  | flowSequenceStart : Token
  | flowSequenceEnd : Token
  | flowMappingStart : Token
  | flowMappingEnd : Token
  | blockEntry : Token
  | flowEntry : Token
  | key : Token
  | value : Token
  | alias (name : String) : Token
  | anchor (name : String) : Token
  | tag (handle : Option String) (suffix : String) : Token
  | scalar (text : String) (plain : Bool) : Token
  deriving DecidableEq

structure Scanned where
  tokens : List Token
  fault : Option Fault := none

end ServiceClient.Yaml

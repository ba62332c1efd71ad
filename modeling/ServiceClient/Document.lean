import ServiceClient.FileError
import ServiceClient.Yaml.Construction

namespace ServiceClient.Document

inductive Failure (ε : Type) : Type
  | refused (error : ε) : Failure ε
  | fault (fault : Yaml.Fault) : Failure ε
  deriving DecidableEq

def load (unreadable malformed : ε) (content : Except FileError ByteArray)
    (use : Value → Except ε α) : Except (Failure ε) α :=
  match content with
  | .error .nullInName => .error (.fault .outOfRange)
  | .error _ => .error (.refused unreadable)
  | .ok bytes => match Yaml.ofBytes bytes with
    | .error .malformed => .error (.refused malformed)
    | .error fault => .error (.fault fault)
    | .ok v => (use v).mapError .refused

end ServiceClient.Document

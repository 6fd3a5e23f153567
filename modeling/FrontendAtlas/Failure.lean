import FrontendAtlas.Json.Decode

namespace FrontendAtlas

inductive Failure where
  | access
  | json (fault : Json.Fault)
  | settings
  | missingTypes (path : String)
  | noTypes (path : String)
  | snapshotMissing (path : String)
  | snapshotInvalid (path reason : String)
  deriving DecidableEq

namespace Failure

def message : Failure → String
  | .access => "I/O error"
  | .json _ => "JSON error"
  | .settings => "invalid config"
  | .missingTypes path => "required type declarations not found at " ++ path
  | .noTypes path => "refusing to write " ++ path ++ ": graph has no type definitions"
  | .snapshotMissing path => "graph snapshot not found: " ++ path
  | .snapshotInvalid path reason => "invalid graph snapshot " ++ path ++ ": " ++ reason

def concernsSnapshot : Failure → Bool
  | .snapshotMissing _ | .snapshotInvalid _ _ => true
  | _ => false

end Failure

end FrontendAtlas

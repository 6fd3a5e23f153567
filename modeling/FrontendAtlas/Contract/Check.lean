import FrontendAtlas.Contract.Counterpart
import FrontendAtlas.Contract.NumericType
import FrontendAtlas.Contract.Route
import FrontendAtlas.Contract.Snapshot
import FrontendAtlas.Contract.Violation

namespace FrontendAtlas.Contract

open FrontendAtlas.Json

structure Check where
  id : String
  title : String
  run : Snapshot → List Violation

namespace Check

def responseEnvelope : Check where
  id := "response_envelope"
  title := "Response Envelope Documentation"
  run snapshot := snapshot.controllers.entries.filterMap fun (name, controller) =>
    let found (message : String) : Option Violation := some ⟨.fail, "response_envelope", name, message⟩
    match controller.patterns.bind (·.get? "response_envelope") with
    | some (.bool _) => none
    | some other => found ("response_envelope must be a boolean, found " ++ String.ofList other.compact)
    | none => found "Missing response_envelope documentation in patterns"

def numericId : Check where
  id := "numeric_id"
  title := "No Integer IDs in DTOs"
  run snapshot := snapshot.dtos.entries.filterMap fun (name, dto) =>
    match dto.properties.get? "Id" with
    | some (.string type) =>
      if isNumericType type.toList then
        some ⟨.fail, "numeric_id", name,
          "Exposes integer ID: Id: " ++ type ++ " (should use IdKey string)"⟩
      else none
    | _ => none

def rawIdViolation? (subject start : String) (route : Option String) : Option Violation := do
  let route ← route.filter fun route => usesRawId route.toList
  return ⟨.fail, "idkey_route", subject, start ++ " uses \x7bid\x7d instead of \x7bidKey\x7d: " ++ route⟩

def idKeyRoute : Check where
  id := "idkey_route"
  title := "IdKey Routes"
  run snapshot := snapshot.controllers.entries.flatMap fun (name, controller) =>
    (rawIdViolation? name "Controller route" controller.route).toList ++
      controller.endpoints.filterMap fun endpoint =>
        rawIdViolation? (name ++ "." ++ endpoint.name.getD "?") "Route" endpoint.route

def hookWrapping : Check where
  id := "hook_wrapping"
  title := "Hook Wrapping"
  run snapshot := snapshot.nodes.components.entries.filterMap fun (name, component) =>
    if component.callsNetwork then
      some ⟨.fail, "hook_wrapping", name, "Component makes direct API calls instead of using hooks"⟩
    else none

def baseProperties : List String := ["Id", "IdKey", "Guid", "CreatedDateTime", "ModifiedDateTime"]

def streamTypes : List String := ["Stream", "FileStream", "IFormFile"]

def isSkippedDto (allowed : List String) (name : String) : Bool :=
  allowed.contains name || Text.endsWith "RequestDto".toList name.toList ||
    Text.endsWith "ResponseDto".toList name.toList

def alignmentNote (subject message : String) : Violation :=
  ⟨.info, "type_alignment", subject, message⟩

def missingProperties (dtoName typeName : String) (dto : Dto) (properties : Dict String) : List Violation :=
  dto.properties.entries.filterMap fun (name, value) =>
    let type := match value with
      | .string type => type
      | _ => ""
    let expected := camelCase name
    if baseProperties.contains name || streamTypes.contains type ||
        properties.keys.any (Text.eqIgnoringAsciiCase · expected) then none
    else some (alignmentNote (dtoName ++ " ↔ " ++ typeName)
      ("Missing property: DTO has " ++ name ++ " (" ++ type ++ ") but frontend type lacks " ++ expected))

def dtoNotes (types : Dict TypeDeclaration) (interfaces : List String) (name : String) (dto : Dto) :
    List Violation :=
  match counterpart? name interfaces with
  | none => [alignmentNote name "No corresponding frontend type found"]
  | some typeName =>
    missingProperties name typeName dto ((types.get? typeName).elim ∅ (·.properties))

def isMatchedInterface (dtos : Dict Dto) (name : String) : Bool :=
  name.toList.head? == some '_' || Text.contains "Enum".toList name.toList ||
    (counterpart? name dtos.keys).isSome || dtos.contains (name ++ dtoEnding)

def typeAlignment (allowed : List String) : Check where
  id := "type_alignment"
  title := "Type Alignment (Frontend ↔ Backend)"
  run snapshot :=
    let types := snapshot.nodes.types
    if snapshot.dtos.isEmpty then []
    else if types.isEmpty then
      [alignmentNote "types" ("Frontend types not present in snapshot; backend has " ++
        toString snapshot.dtos.size ++ " DTOs")]
    else
      let interfaces := (types.entries.filter fun entry => entry.2.kind = .interface).map (·.1)
      ((snapshot.dtos.entries.filter fun entry => !isSkippedDto allowed entry.1).flatMap
        fun (name, dto) => dtoNotes types interfaces name dto) ++
        (interfaces.filter fun name => !isMatchedInterface snapshot.dtos name).map fun name =>
          alignmentNote name "Frontend type has no corresponding backend DTO (may be frontend-only)"

def unresolvedReference : Check where
  id := "unresolved_reference"
  title := "Unresolved References"
  run snapshot := snapshot.nodes.dangling.map fun reference =>
    ⟨.warn, "unresolved_reference", reference.source, reference.text⟩

def all (allowed : List String) : List Check :=
  [responseEnvelope, numericId, idKeyRoute, hookWrapping, typeAlignment allowed, unresolvedReference]

end Check

end FrontendAtlas.Contract

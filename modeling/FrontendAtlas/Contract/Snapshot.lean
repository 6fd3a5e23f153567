import FrontendAtlas.Graph.Basic

/-! A snapshot to be verified: a front end's graph, alone or together with the controllers and
records of its back end.  Missing sections are empty, unknown ones are passed over. -/

namespace FrontendAtlas.Contract

open FrontendAtlas.Json

structure Endpoint where
  name : Option String
  method : Option String
  route : Option String

structure Controller where
  name : String
  route : Option String
  endpoints : List Endpoint
  patterns : Option (Dict Value)

structure Dto where
  name : String
  properties : Dict Value

structure Snapshot where
  nodes : Nodes
  edges : List Value
  controllers : Dict Controller
  dtos : Dict Dto
  missing : List String

def Endpoint.shape : Shape Endpoint :=
  Endpoint.mk
    <$> .fieldOr none "name" (Decode.optional Decode.text)
    <*> .fieldOr none "method" (Decode.optional Decode.text)
    <*> .fieldOr none "route" (Decode.optional Decode.text)

def Controller.shape : Shape Controller :=
  Controller.mk
    <$> .fieldOr "" "name" Decode.text
    <*> .fieldOr none "route" (Decode.optional Decode.text)
    <*> .fieldOr [] "endpoints" (Decode.list Endpoint.shape.decode)
    <*> .fieldOr none "patterns" (Decode.optional (Decode.dict Decode.value))

def Dto.shape : Shape Dto :=
  Dto.mk
    <$> .fieldOr "" "name" Decode.text
    <*> .fieldOr ∅ "properties" (Decode.dict Decode.value)

namespace Snapshot

def requiredSections : List String := ["controllers", "dtos", "components", "hooks"]

def shape (missing : List String) : Shape Snapshot :=
  (fun types apis hooks components edges controllers dtos =>
    ⟨⟨types, apis, hooks, components⟩, edges, controllers, dtos, missing⟩)
    <$> .fieldOr ∅ "types" (Decode.dict TypeDeclaration.shape.decode)
    <*> .fieldOr ∅ "api_functions" (Decode.dict ApiFunction.shape.decode)
    <*> .fieldOr ∅ "hooks" (Decode.dict Hook.shape.decode)
    <*> .fieldOr ∅ "components" (Decode.dict Component.shape.decode)
    <*> .fieldOr [] "edges" (Decode.list Decode.value)
    <*> .fieldOr ∅ "controllers" (Decode.dict Controller.shape.decode)
    <*> .fieldOr ∅ "dtos" (Decode.dict Dto.shape.decode)

def missingSections : Value → List String
  | .object fields => requiredSections.filter fun name => (fields.lookup name).isNone
  | _ => []

/-- Reads a snapshot.  The whole text is read as one value first, so that of fields with the same
name the last one counts. -/
def ofText (text : String) : Except Fault Snapshot :=
  match Value.parse? text.toList with
  | none => .error .malformed
  | some value => (value.decode (shape (missingSections value)).decode).mapError fun _ => .shape

def stats (snapshot : Snapshot) : GraphStats :=
  snapshot.nodes.stats snapshot.edges.length

end Snapshot

end FrontendAtlas.Contract

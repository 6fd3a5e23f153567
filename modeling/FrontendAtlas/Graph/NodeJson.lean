import FrontendAtlas.Graph.Node
import FrontendAtlas.Json.Decode

namespace FrontendAtlas

open FrontendAtlas.Json

def NameSet.json (set : NameSet) : Value :=
  .names set.names

def NameSet.decode : Decoder NameSet := fun draft =>
  (Decode.list Decode.text draft).map NameSet.ofList

def Dict.json {α : Type} (encode : α → Value) (dict : Dict α) : Value :=
  .object (dict.entries.map fun entry => (entry.1, encode entry.2))

def TypeKind.ofName : String → TypeKind
  | "interface" => .interface
  | "type" => .synonym
  | "enum" => .enum
  | _ => .other

def HttpMethod.ofName? : String → Option HttpMethod
  | "GET" => some .get
  | "POST" => some .post
  | "PUT" => some .put
  | "PATCH" => some .patch
  | "DELETE" => some .delete
  | _ => none

namespace TypeDeclaration

def json (node : TypeDeclaration) : Value :=
  .object [
    ("name", .string node.name),
    ("kind", .string node.kind.name),
    ("properties", node.properties.json .string),
    ("path", .string node.path)]

def shape : Shape TypeDeclaration :=
  TypeDeclaration.mk
    <$> .fieldOr "" "name" Decode.text
    <*> .fieldOr .other "kind" (Decode.word fun word => some (.ofName word))
    <*> .fieldOr ∅ "properties" (Decode.dict Decode.text)
    <*> .fieldOr "" "path" Decode.text

end TypeDeclaration

namespace ApiFunction

def json (node : ApiFunction) : Value :=
  .object [
    ("name", .string node.name),
    ("path", .string node.path),
    ("endpoint", .ofText? node.endpoint),
    ("method", .ofText? (node.method.map (·.name))),
    ("responseType", .string node.responseType)]

def shape : Shape ApiFunction :=
  ApiFunction.mk
    <$> .fieldOr "" "name" Decode.text
    <*> .fieldOr "" "path" Decode.text
    <*> .fieldOr none "endpoint" (Decode.optional Decode.text)
    <*> .fieldOr none "method" (Decode.optional (Decode.word HttpMethod.ofName?))
    <*> .fieldOr "" "responseType" Decode.text

end ApiFunction

namespace Hook

def json (node : Hook) : Value :=
  .object [
    ("name", .string node.name),
    ("path", .string node.path),
    ("apiBinding", .ofText? node.binding),
    ("queryKey", node.cacheKey.elim .null .names),
    ("usesQuery", .bool node.usesQuery),
    ("usesMutation", .bool node.usesMutation),
    ("dependencies", node.dependencies.json)]

def shape : Shape Hook :=
  Hook.mk
    <$> .fieldOr "" "name" Decode.text
    <*> .fieldOr "" "path" Decode.text
    <*> .fieldOr none "apiBinding" (Decode.optional Decode.text)
    <*> .fieldOr none "queryKey" (Decode.optional (Decode.list Decode.text))
    <*> .fieldOr false "usesQuery" Decode.flag
    <*> .fieldOr false "usesMutation" Decode.flag
    <*> .fieldOr ∅ "dependencies" NameSet.decode

end Hook

namespace Component

def json (node : Component) : Value :=
  .object [
    ("name", .string node.name),
    ("path", .string node.path),
    ("hooksUsed", node.hooks.json),
    ("apiCallsDirectly", .bool node.callsNetwork)]

def shape : Shape Component :=
  Component.mk
    <$> .fieldOr "" "name" Decode.text
    <*> .fieldOr "" "path" Decode.text
    <*> .fieldOr ∅ "hooksUsed" NameSet.decode
    <*> .fieldOr false "apiCallsDirectly" Decode.flag

end Component

end FrontendAtlas

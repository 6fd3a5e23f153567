import FrontendAtlas.Graph.Edge
import FrontendAtlas.Graph.NodeJson

namespace FrontendAtlas

open FrontendAtlas.Json

structure Graph where
  version : String
  generatedAt : String
  nodes : Nodes
  edges : List Edge
  deriving DecidableEq

structure GraphStats where
  types : Nat
  apis : Nat
  hooks : Nat
  components : Nat
  edges : Nat
  deriving DecidableEq

def GraphStats.text (stats : GraphStats) : String :=
  toString stats.types ++ " types, " ++ toString stats.apis ++ " API functions, " ++
    toString stats.hooks ++ " hooks, " ++ toString stats.components ++ " components, " ++
    toString stats.edges ++ " edges"

def Nodes.stats (nodes : Nodes) (edges : Nat) : GraphStats :=
  ⟨nodes.types.size, nodes.apis.size, nodes.hooks.size, nodes.components.size, edges⟩

def EdgeKind.ofName? : String → Option EdgeKind
  | "api_binding" => some .binding
  | "depends_on" => some .dependency
  | "uses_hook" => some .use
  | _ => none

namespace Edge

def json (edge : Edge) : Value :=
  .object [
    ("from", .string edge.source),
    ("to", .string edge.target),
    ("type", .string edge.kind.name)]

def shape : Shape Edge :=
  Edge.mk
    <$> .field "from" Decode.text
    <*> .field "to" Decode.text
    <*> .field "type" (Decode.word EdgeKind.ofName?)

end Edge

namespace Graph

def currentVersion : String := "1.0.0"

def ofNodes (nodes : Nodes) (generatedAt : String) : Graph :=
  ⟨currentVersion, generatedAt, nodes, nodes.edges⟩

def stats (graph : Graph) : GraphStats :=
  graph.nodes.stats graph.edges.length

def json (graph : Graph) : Value :=
  .object [
    ("version", .string graph.version),
    ("generated_at", .string graph.generatedAt),
    ("types", graph.nodes.types.json (·.json)),
    ("api_functions", graph.nodes.apis.json (·.json)),
    ("hooks", graph.nodes.hooks.json (·.json)),
    ("components", graph.nodes.components.json (·.json)),
    ("edges", .array (graph.edges.map (·.json)))]

def shape : Shape Graph :=
  (fun version generatedAt types apis hooks components edges =>
    ⟨version, generatedAt, ⟨types, apis, hooks, components⟩, edges⟩)
    <$> .field "version" Decode.text
    <*> .field "generated_at" Decode.text
    <*> .field "types" (Decode.dict TypeDeclaration.shape.decode)
    <*> .field "api_functions" (Decode.dict ApiFunction.shape.decode)
    <*> .field "hooks" (Decode.dict Hook.shape.decode)
    <*> .field "components" (Decode.dict Component.shape.decode)
    <*> .field "edges" (Decode.list Edge.shape.decode)

def fileText (graph : Graph) : String :=
  String.ofList (graph.json.pretty ++ ['\n'])

def ofFileText (text : String) : Except Fault Graph :=
  Document.decode shape.decode text.toList

end Graph

end FrontendAtlas

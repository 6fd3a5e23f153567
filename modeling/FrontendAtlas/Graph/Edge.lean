import FrontendAtlas.Graph.Node

namespace FrontendAtlas

inductive EdgeKind where
  | binding
  | dependency
  | use
  deriving DecidableEq

def EdgeKind.name : EdgeKind → String
  | .binding => "api_binding"
  | .dependency => "depends_on"
  | .use => "uses_hook"

structure Edge where
  source : String
  target : String
  kind : EdgeKind
  deriving DecidableEq

def Edge.text (edge : Edge) : String :=
  edge.source ++ " --[" ++ edge.kind.name ++ "]--> " ++ edge.target

structure DanglingReference where
  source : String
  target : String
  kind : EdgeKind
  deriving DecidableEq

def DanglingReference.text (reference : DanglingReference) : String :=
  let fault := match reference.kind with
    | .binding => "bound to unknown API function"
    | .dependency => "depends on unknown hook"
    | .use => "uses unknown hook"
  fault ++ " '" ++ reference.target ++ "'"

structure Nodes where
  types : Dict TypeDeclaration := ∅
  apis : Dict ApiFunction := ∅
  hooks : Dict Hook := ∅
  components : Dict Component := ∅
  deriving DecidableEq

namespace Nodes

def has (nodes : Nodes) (name : String) : Bool :=
  nodes.types.contains name || nodes.apis.contains name || nodes.hooks.contains name ||
    nodes.components.contains name

def hookEdges (nodes : Nodes) (name : String) (hook : Hook) : List Edge :=
  let bound := hook.binding.toList.filter nodes.apis.contains
  let others := hook.dependencies.names.filter fun other => other != name && nodes.hooks.contains other
  bound.map (⟨name, ·, .binding⟩) ++ others.map (⟨name, ·, .dependency⟩)

def componentEdges (nodes : Nodes) (name : String) (component : Component) : List Edge :=
  (component.hooks.names.filter nodes.hooks.contains).map (⟨name, ·, .use⟩)

def edges (nodes : Nodes) : List Edge :=
  (nodes.hooks.entries.flatMap fun (name, hook) => nodes.hookEdges name hook) ++
    nodes.components.entries.flatMap fun (name, component) => nodes.componentEdges name component

/-- Bindings to no API function, then uses of no hook.  A dependency is drawn from known names, so it
is never listed. -/
def dangling (nodes : Nodes) : List DanglingReference :=
  (nodes.hooks.entries.flatMap fun (name, hook) =>
    (hook.binding.toList.filter fun target => !nodes.apis.contains target).map (⟨name, ·, .binding⟩)) ++
    nodes.components.entries.flatMap fun (name, component) =>
      (component.hooks.names.filter fun target => !nodes.hooks.contains target).map (⟨name, ·, .use⟩)

end Nodes

end FrontendAtlas

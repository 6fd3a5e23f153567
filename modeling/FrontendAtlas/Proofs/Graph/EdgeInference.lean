import FrontendAtlas.Graph.Edge
import FrontendAtlas.Proofs.Dict

/-! The edges of a set of nodes.  Edges and dangling references come from two passes over the same
references: the first keeps those with a target, the second those without one.  So a reference gives
just one of the two, whatever the nodes hold. -/

namespace FrontendAtlas

/-- The order in which edges are listed: hooks before components, then by source; the binding of a hook
comes before its dependencies, which are ordered by target like the uses of a component. -/
inductive Edge.Precedes (a b : Edge) : Prop
  | layer : a.kind ≠ .use → b.kind = .use → Precedes a b
  | source : (a.kind = .use ↔ b.kind = .use) → a.source < b.source → Precedes a b
  | bindingFirst : a.source = b.source → a.kind = .binding → b.kind = .dependency → Precedes a b
  | target : a.source = b.source → a.kind = b.kind → a.kind ≠ .binding → a.target < b.target →
      Precedes a b

theorem Edge.Precedes.ne {a b : Edge} (h : a.Precedes b) : a ≠ b := by
  rintro rfl
  cases h with
  | layer other use => exact other use
  | source _ below => exact String.lt_irrefl _ below
  | bindingFirst _ binding dependency => simp [binding] at dependency
  | target _ _ _ below => exact String.lt_irrefl _ below

namespace Nodes

inductive Inferred (nodes : Nodes) : Edge → Prop
  | binding {name hook target} : nodes.hooks.get? name = some hook → hook.binding = some target →
      nodes.apis.contains target = true → Inferred nodes ⟨name, target, .binding⟩
  | dependency {name hook target} : nodes.hooks.get? name = some hook →
      target ∈ hook.dependencies.names → target ≠ name → nodes.hooks.contains target = true →
      Inferred nodes ⟨name, target, .dependency⟩
  | use {name component target} : nodes.components.get? name = some component →
      target ∈ component.hooks.names → nodes.hooks.contains target = true →
      Inferred nodes ⟨name, target, .use⟩

def Binds (nodes : Nodes) (name target : String) : Prop :=
  ∃ hook, nodes.hooks.get? name = some hook ∧ hook.binding = some target

def Uses (nodes : Nodes) (name target : String) : Prop :=
  ∃ component, nodes.components.get? name = some component ∧ target ∈ component.hooks.names

variable {nodes : Nodes} {name : String}

theorem mem_hookEdges_iff {hook : Hook} {edge : Edge} : edge ∈ nodes.hookEdges name hook ↔
    edge.source = name ∧
      ((edge.kind = .binding ∧ hook.binding = some edge.target ∧ nodes.apis.contains edge.target = true) ∨
        (edge.kind = .dependency ∧ edge.target ∈ hook.dependencies.names ∧ edge.target ≠ name ∧
          nodes.hooks.contains edge.target = true)) := by
  obtain ⟨source, target, kind⟩ := edge
  simp only [hookEdges, List.mem_append, List.mem_map, List.mem_filter, Option.mem_toList, Edge.mk.injEq,
    Bool.and_eq_true, bne_iff_ne]
  constructor
  · rintro (⟨other, ⟨bound, known⟩, rfl, rfl, rfl⟩ | ⟨other, ⟨mentioned, differs, known⟩, rfl, rfl, rfl⟩)
    · exact ⟨rfl, .inl ⟨rfl, bound, known⟩⟩
    · exact ⟨rfl, .inr ⟨rfl, mentioned, differs, known⟩⟩
  · rintro ⟨rfl, ⟨rfl, bound, known⟩ | ⟨rfl, mentioned, differs, known⟩⟩
    · exact .inl ⟨target, ⟨bound, known⟩, rfl, rfl, rfl⟩
    · exact .inr ⟨target, ⟨mentioned, differs, known⟩, rfl, rfl, rfl⟩

theorem mem_componentEdges_iff {component : Component} {edge : Edge} :
    edge ∈ nodes.componentEdges name component ↔ edge.source = name ∧ edge.kind = .use ∧
      edge.target ∈ component.hooks.names ∧ nodes.hooks.contains edge.target = true := by
  obtain ⟨source, target, kind⟩ := edge
  simp only [componentEdges, List.mem_map, List.mem_filter, Edge.mk.injEq]
  constructor
  · rintro ⟨other, ⟨used, known⟩, rfl, rfl, rfl⟩
    exact ⟨rfl, rfl, used, known⟩
  · rintro ⟨rfl, rfl, used, known⟩
    exact ⟨target, ⟨used, known⟩, rfl, rfl, rfl⟩

theorem mem_edges_iff {edge : Edge} : edge ∈ nodes.edges ↔ nodes.Inferred edge := by
  simp only [edges, List.mem_append, List.mem_flatMap, Prod.exists, Dict.mem_entries_iff,
    mem_hookEdges_iff, mem_componentEdges_iff]
  obtain ⟨source, target, kind⟩ := edge
  constructor
  · rintro (⟨_, hook, known, rfl, ⟨rfl, bound, present⟩ | ⟨rfl, mentioned, differs, present⟩⟩ |
      ⟨_, component, known, rfl, rfl, used, present⟩)
    · exact .binding known bound present
    · exact .dependency known mentioned differs present
    · exact .use known used present
  · intro inferred
    cases inferred with
    | binding known bound present => exact .inl ⟨_, _, known, rfl, .inl ⟨rfl, bound, present⟩⟩
    | dependency known mentioned differs present =>
      exact .inl ⟨_, _, known, rfl, .inr ⟨rfl, mentioned, differs, present⟩⟩
    | use known used present => exact .inr ⟨_, _, known, rfl, rfl, used, present⟩

theorem pairwise_hookEdges (nodes : Nodes) (name : String) (hook : Hook) :
    (nodes.hookEdges name hook).Pairwise Edge.Precedes := by
  rw [hookEdges, List.pairwise_append, List.pairwise_map, List.pairwise_map]
  refine ⟨?_, ?_, ?_⟩
  · apply List.Pairwise.filter
    cases hook.binding <;> simp
  · apply (hook.dependencies.sorted.filter _).imp
    intro a b below
    exact .target rfl rfl (by simp) below
  · intro first inFirst second inSecond
    obtain ⟨_, -, rfl⟩ := List.mem_map.1 inFirst
    obtain ⟨_, -, rfl⟩ := List.mem_map.1 inSecond
    exact .bindingFirst rfl rfl rfl

theorem pairwise_componentEdges (nodes : Nodes) (name : String) (component : Component) :
    (nodes.componentEdges name component).Pairwise Edge.Precedes := by
  rw [componentEdges, List.pairwise_map]
  apply (component.hooks.sorted.filter _).imp
  intro a b below
  exact .target rfl rfl (by simp) below

theorem pairwise_flatMap_edges {α : Type} (dict : Dict α) (found : String → α → List Edge) (ofUses : Prop)
    (each : ∀ name value, (found name value).Pairwise Edge.Precedes)
    (sources : ∀ name value, ∀ edge ∈ found name value, edge.source = name ∧ (edge.kind = .use ↔ ofUses)) :
    (dict.entries.flatMap fun (name, value) => found name value).Pairwise Edge.Precedes := by
  rw [List.pairwise_flatMap]
  constructor
  · rintro ⟨name, value⟩ -
    exact each name value
  · apply dict.sorted.imp
    rintro ⟨name, value⟩ ⟨other, value'⟩ below a ha b hb
    obtain ⟨rfl, layer⟩ := sources _ _ a ha
    obtain ⟨rfl, layer'⟩ := sources _ _ b hb
    exact .source (layer.trans layer'.symm) below

theorem pairwise_edges (nodes : Nodes) : nodes.edges.Pairwise Edge.Precedes := by
  have ofHook (name : String) (hook : Hook) (edge : Edge) (listed : edge ∈ nodes.hookEdges name hook) :
      edge.source = name ∧ (edge.kind = .use ↔ False) := by
    obtain ⟨source, ⟨kind, -⟩ | ⟨kind, -⟩⟩ := mem_hookEdges_iff.1 listed <;> simp [source, kind]
  have ofComponent (name : String) (component : Component) (edge : Edge)
      (listed : edge ∈ nodes.componentEdges name component) :
      edge.source = name ∧ (edge.kind = .use ↔ True) := by
    obtain ⟨source, kind, -⟩ := mem_componentEdges_iff.1 listed
    simp [source, kind]
  rw [edges, List.pairwise_append]
  refine ⟨pairwise_flatMap_edges _ _ False nodes.pairwise_hookEdges ofHook,
    pairwise_flatMap_edges _ _ True nodes.pairwise_componentEdges ofComponent, ?_⟩
  intro a ha b hb
  obtain ⟨_, -, ha⟩ := List.mem_flatMap.1 ha
  obtain ⟨_, -, hb⟩ := List.mem_flatMap.1 hb
  refine .layer ?_ ((ofComponent _ _ b hb).2.2 trivial)
  exact (ofHook _ _ a ha).2.1

theorem mem_dangling_iff {reference : DanglingReference} : reference ∈ nodes.dangling ↔
    (reference.kind = .binding ∧ ∃ hook, nodes.hooks.get? reference.source = some hook ∧
      hook.binding = some reference.target ∧ nodes.apis.contains reference.target = false) ∨
    (reference.kind = .use ∧ ∃ component, nodes.components.get? reference.source = some component ∧
      reference.target ∈ component.hooks.names ∧ nodes.hooks.contains reference.target = false) := by
  obtain ⟨source, target, kind⟩ := reference
  simp only [dangling, List.mem_append, List.mem_flatMap, Prod.exists, Dict.mem_entries_iff, List.mem_map,
    List.mem_filter, Option.mem_toList, DanglingReference.mk.injEq, Bool.not_eq_true']
  constructor
  · rintro (⟨name, hook, known, other, ⟨bound, absent⟩, rfl, rfl, rfl⟩ |
      ⟨name, component, known, other, ⟨used, absent⟩, rfl, rfl, rfl⟩)
    · exact .inl ⟨rfl, hook, known, bound, absent⟩
    · exact .inr ⟨rfl, component, known, used, absent⟩
  · rintro (⟨rfl, hook, known, bound, absent⟩ | ⟨rfl, component, known, used, absent⟩)
    · exact .inl ⟨source, hook, known, target, ⟨bound, absent⟩, rfl, rfl, rfl⟩
    · exact .inr ⟨source, component, known, target, ⟨used, absent⟩, rfl, rfl, rfl⟩

theorem nodup_flatMap_references {α : Type} (dict : Dict α) (targets : α → List String) (kind : EdgeKind)
    (distinct : ∀ value, (targets value).Nodup) :
    (dict.entries.flatMap fun (name, value) =>
      (targets value).map (DanglingReference.mk name · kind)).Nodup := by
  rw [List.Nodup, List.pairwise_flatMap]
  constructor
  · rintro ⟨name, value⟩ -
    rw [List.pairwise_map]
    apply (distinct value).imp
    intro a b differ same
    exact differ (congrArg DanglingReference.target same)
  · apply dict.sorted.imp
    rintro ⟨name, value⟩ ⟨other, _⟩ below a ha b hb rfl
    obtain ⟨_, -, rfl⟩ := List.mem_map.1 ha
    obtain ⟨_, -, same⟩ := List.mem_map.1 hb
    cases same
    exact String.lt_irrefl _ below

theorem nodup_dangling (nodes : Nodes) : nodes.dangling.Nodup := by
  rw [dangling, List.nodup_append]
  refine ⟨?_, ?_, ?_⟩
  · apply nodup_flatMap_references _ fun hook : Hook => hook.binding.toList.filter _
    intro hook
    cases hook.binding with
    | none => simp
    | some target => exact (List.nodup_cons.2 ⟨by simp, .nil⟩).filter _
  · apply nodup_flatMap_references _ fun component : Component => component.hooks.names.filter _
    intro component
    exact component.hooks.nodup_names.filter _
  · intro a ha b hb same
    obtain ⟨_, -, ha⟩ := List.mem_flatMap.1 ha
    obtain ⟨_, -, hb⟩ := List.mem_flatMap.1 hb
    obtain ⟨_, -, rfl⟩ := List.mem_map.1 ha
    obtain ⟨_, -, rfl⟩ := List.mem_map.1 hb
    simp at same

theorem iff_xor_known {reference : Prop} {known : Bool} :
    reference ↔ Xor (reference ∧ known = true) (reference ∧ known = false) := by
  cases known <;> simp [Xor]

theorem binds_iff (nodes : Nodes) (name target : String) : nodes.Binds name target ↔
    Xor (⟨name, target, .binding⟩ ∈ nodes.edges) (⟨name, target, .binding⟩ ∈ nodes.dangling) := by
  have edge : ⟨name, target, .binding⟩ ∈ nodes.edges ↔
      nodes.Binds name target ∧ nodes.apis.contains target = true := by
    rw [mem_edges_iff]
    constructor
    · rintro (⟨known, bound, present⟩ | _ | _)
      exact ⟨⟨_, known, bound⟩, present⟩
    · rintro ⟨⟨hook, known, bound⟩, present⟩
      exact .binding known bound present
  have reference : ⟨name, target, .binding⟩ ∈ nodes.dangling ↔
      nodes.Binds name target ∧ nodes.apis.contains target = false := by
    simp [mem_dangling_iff, Binds, ← exists_and_right, and_assoc]
  rw [edge, reference]
  exact iff_xor_known

theorem uses_iff (nodes : Nodes) (name target : String) : nodes.Uses name target ↔
    Xor (⟨name, target, .use⟩ ∈ nodes.edges) (⟨name, target, .use⟩ ∈ nodes.dangling) := by
  have edge : ⟨name, target, .use⟩ ∈ nodes.edges ↔
      nodes.Uses name target ∧ nodes.hooks.contains target = true := by
    rw [mem_edges_iff]
    constructor
    · rintro (_ | _ | ⟨known, used, present⟩)
      exact ⟨⟨_, known, used⟩, present⟩
    · rintro ⟨⟨component, known, used⟩, present⟩
      exact .use known used present
  have reference : ⟨name, target, .use⟩ ∈ nodes.dangling ↔
      nodes.Uses name target ∧ nodes.hooks.contains target = false := by
    simp [mem_dangling_iff, Uses, ← exists_and_right, and_assoc]
  rw [edge, reference]
  exact iff_xor_known

theorem sum_map_filter_length {α : Type} (entries : List α) (targets : α → List String)
    (known : String → Bool) :
    (entries.map fun entry => ((targets entry).filter known).length).sum +
        (entries.map fun entry => ((targets entry).filter fun target => !known target).length).sum =
      (entries.map fun entry => (targets entry).length).sum := by
  rw [← List.sum_map_add]
  congr 1
  apply List.map_congr_left
  intro entry _
  exact (List.length_eq_length_filter_add known).symm

theorem count_bindings (nodes : Nodes) :
    nodes.edges.countP (·.kind = .binding) + nodes.dangling.countP (·.kind = .binding) =
      nodes.hooks.values.countP (·.binding.isSome) := by
  have kept : nodes.edges.countP (·.kind = .binding) = (nodes.hooks.entries.map fun entry =>
      (entry.2.binding.toList.filter nodes.apis.contains).length).sum := by
    simp [edges, hookEdges, componentEdges, List.countP_flatMap, List.countP_map, Function.comp_def]
  have lost : nodes.dangling.countP (·.kind = .binding) = (nodes.hooks.entries.map fun entry =>
      (entry.2.binding.toList.filter fun target => !nodes.apis.contains target).length).sum := by
    simp [dangling, List.countP_flatMap, List.countP_map, Function.comp_def]
  have all : nodes.hooks.values.countP (·.binding.isSome) =
      (nodes.hooks.entries.map fun entry => entry.2.binding.toList.length).sum := by
    rw [← List.length_flatMap, ← List.filterMap_eq_flatMap_toList, List.length_filterMap_eq_countP,
      Dict.values, List.countP_map]
    rfl
  rw [kept, lost, all, sum_map_filter_length]

theorem count_uses (nodes : Nodes) :
    nodes.edges.countP (·.kind = .use) + nodes.dangling.countP (·.kind = .use) =
      (nodes.components.values.map (·.hooks.names.length)).sum := by
  have kept : nodes.edges.countP (·.kind = .use) = (nodes.components.entries.map fun entry =>
      (entry.2.hooks.names.filter nodes.hooks.contains).length).sum := by
    simp [edges, hookEdges, componentEdges, List.countP_flatMap, List.countP_map, Function.comp_def]
  have lost : nodes.dangling.countP (·.kind = .use) = (nodes.components.entries.map fun entry =>
      (entry.2.hooks.names.filter fun target => !nodes.hooks.contains target).length).sum := by
    simp [dangling, List.countP_flatMap, List.countP_map, Function.comp_def]
  rw [kept, lost, sum_map_filter_length, Dict.values, List.map_map]
  rfl

/-- The edges are just the references that lead to a node, each once and in order.  A binding or a use
gives either an edge or a dangling reference, and nothing else is dangling; so the two together are as
many as there are bindings and uses. -/
theorem edges_complement_dangling (nodes : Nodes) :
    (∀ edge, edge ∈ nodes.edges ↔ nodes.Inferred edge) ∧
    nodes.edges.Nodup ∧ nodes.edges.Pairwise Edge.Precedes ∧ nodes.dangling.Nodup ∧
    (∀ name target, nodes.Binds name target ↔
      Xor (⟨name, target, .binding⟩ ∈ nodes.edges) (⟨name, target, .binding⟩ ∈ nodes.dangling)) ∧
    (∀ name target, nodes.Uses name target ↔
      Xor (⟨name, target, .use⟩ ∈ nodes.edges) (⟨name, target, .use⟩ ∈ nodes.dangling)) ∧
    (∀ name target, ⟨name, target, .dependency⟩ ∉ nodes.dangling) ∧
    nodes.edges.countP (·.kind = .binding) + nodes.dangling.countP (·.kind = .binding) =
      nodes.hooks.values.countP (·.binding.isSome) ∧
    nodes.edges.countP (·.kind = .use) + nodes.dangling.countP (·.kind = .use) =
      (nodes.components.values.map (·.hooks.names.length)).sum := by
  have distinct : nodes.edges.Nodup := nodes.pairwise_edges.imp fun before => before.ne
  have onlyTwoKinds (name target : String) : ⟨name, target, .dependency⟩ ∉ nodes.dangling := by
    simp [mem_dangling_iff]
  exact ⟨fun _ => mem_edges_iff, distinct, nodes.pairwise_edges, nodes.nodup_dangling, nodes.binds_iff,
    nodes.uses_iff, onlyTwoKinds, nodes.count_bindings, nodes.count_uses⟩

end Nodes

end FrontendAtlas

import FrontendAtlas.Project.Extraction
import FrontendAtlas.Proofs.Graph.EdgeInference

/-! References in a generated graph.  The names that hooks and components refer to are drawn from two
passes over the hook files, one that lists names and one that builds nodes.  Both passes see the same
declarations, so the only names that can lead nowhere are bindings. -/

namespace FrontendAtlas

theorem Declaration.mem_hookNames_iff {source : List Char} {name : String} :
    name ∈ Declaration.hookNames source ↔
      ∃ declaration ∈ Declaration.hookDeclarations (Source.stripComments source),
        declaration.name = name := by
  simp [Declaration.hookNames]

theorem Declaration.exists_declaration_of_get?_hooks {source : List Char} {path name : String}
    {apis names : NameSet} {hook : Hook}
    (h : (Declaration.hooks source path apis names).get? name = some hook) :
    ∃ declaration ∈ Declaration.hookDeclarations (Source.stripComments source),
      declaration.name = name ∧ hook = declaration.hook path apis names := by
  rw [Declaration.hooks, Dict.get?_ofListFirst] at h
  obtain ⟨declaration, declared, same⟩ := List.mem_map.1 (Dict.mem_of_lookup h)
  cases same
  exact ⟨declaration, declared, rfl, rfl⟩

theorem Declaration.contains_hooks_iff {source : List Char} {path name : String} {apis names : NameSet} :
    (Declaration.hooks source path apis names).contains name = true ↔
      name ∈ Declaration.hookNames source := by
  rw [Declaration.mem_hookNames_iff, Dict.contains, Declaration.hooks, Dict.get?_ofListFirst,
    List.lookup_isSome_iff]
  constructor
  · rintro ⟨entry, listed, same⟩
    obtain ⟨declaration, declared, rfl⟩ := List.mem_map.1 listed
    exact ⟨declaration, declared, (beq_iff_eq.1 same).symm⟩
  · rintro ⟨declaration, declared, rfl⟩
    exact ⟨_, List.mem_map_of_mem declared, beq_self_eq_true _⟩

theorem Declaration.HookDeclaration.mem_dependencies {declaration : Declaration.HookDeclaration}
    {path other : String} {apis names : NameSet}
    (h : other ∈ (declaration.hook path apis names).dependencies.names) :
    other ≠ declaration.name ∧ (other ∈ apis.names ∨ other ∈ names.names) := by
  simp only [Declaration.HookDeclaration.hook, NameSet.mem_filter, NameSet.mem_union, Bool.and_eq_true,
    bne_iff_ne] at h
  exact ⟨h.2.1, h.1⟩

theorem Declaration.mem_hooks_of_component? {source : List Char} {file path hook : String}
    {names : NameSet} {component : Component}
    (found : Declaration.component? source file path names = some component)
    (used : hook ∈ component.hooks.names) : hook ∈ names.names := by
  simp only [Declaration.component?, Option.bind_eq_bind, Option.bind_eq_some_iff, pure,
    Option.some.injEq] at found
  obtain ⟨_, -, rfl⟩ := found
  exact (NameSet.mem_filter.1 used).1

namespace Project

theorem get?_foldl_mergeFirst {α : Type} (found : List (Dict α)) (dict : Dict α) (name : String) :
    (found.foldl Dict.mergeFirst dict).get? name =
      (dict.get? name).or (found.findSome? fun other => other.get? name) := by
  induction found generalizing dict with
  | nil => simp
  | cons first rest ih =>
    rw [List.foldl_cons, ih, Dict.get?_mergeFirst, List.findSome?_cons]
    cases dict.get? name <;> cases first.get? name <;> rfl

@[simp] theorem get?_mergeAll {α : Type} (found : List (Dict α)) (name : String) :
    (mergeAll found).get? name = found.findSome? fun dict => dict.get? name := by
  simp [mergeAll, get?_foldl_mergeFirst]

theorem contains_mergeAll_iff {α : Type} {found : List (Dict α)} {name : String} :
    (mergeAll found).contains name = true ↔ ∃ dict ∈ found, dict.contains name = true := by
  simp [Dict.contains]

variable {apis names : NameSet} {sources : List Source}

theorem mem_hookNamesOf_iff {name : String} : name ∈ (hookNamesOf sources).names ↔
    ∃ source ∈ sources, name ∈ Declaration.hookNames source.text := by
  simp [hookNamesOf]

theorem contains_hooksOf_iff {name : String} :
    (hooksOf apis sources).contains name = true ↔ name ∈ (hookNamesOf sources).names := by
  simp only [hooksOf, contains_mergeAll_iff, List.mem_map, mem_hookNamesOf_iff]
  constructor
  · rintro ⟨dict, ⟨source, listed, rfl⟩, found⟩
    exact ⟨source, listed, Declaration.contains_hooks_iff.1 found⟩
  · rintro ⟨source, listed, found⟩
    exact ⟨_, ⟨source, listed, rfl⟩, Declaration.contains_hooks_iff.2 found⟩

theorem ofList_keys_hooksOf : NameSet.ofList (hooksOf apis sources).keys = hookNamesOf sources := by
  apply NameSet.ext_mem
  intro name
  rw [NameSet.mem_ofList, Dict.mem_keys_iff, contains_hooksOf_iff]

theorem mem_dependencies_of_hooksOf {name other : String} {hook : Hook}
    (found : (hooksOf apis sources).get? name = some hook) (used : other ∈ hook.dependencies.names) :
    other ≠ name ∧ (other ∈ apis.names ∨ (hooksOf apis sources).contains other = true) := by
  rw [contains_hooksOf_iff]
  simp only [hooksOf, get?_mergeAll] at found
  obtain ⟨dict, listed, found⟩ := List.exists_of_findSome?_eq_some found
  obtain ⟨source, -, rfl⟩ := List.mem_map.1 listed
  obtain ⟨declaration, -, rfl, rfl⟩ := Declaration.exists_declaration_of_get?_hooks found
  exact Declaration.HookDeclaration.mem_dependencies used

theorem mem_hooks_of_componentsOf {name hook : String} {component : Component}
    (found : (componentsOf names sources).get? name = some component)
    (used : hook ∈ component.hooks.names) : hook ∈ names.names := by
  rw [componentsOf, Dict.get?_ofListFirst] at found
  obtain ⟨source, -, yielded⟩ := List.mem_filterMap.1 (Dict.mem_of_lookup found)
  obtain ⟨other, extracted, same⟩ := Option.map_eq_some_iff.1 yielded
  cases same
  exact Declaration.mem_hooks_of_component? extracted used

theorem nodes_of_graph {space : Workspace} {settings : GeneratorSettings} {now : String} {graph : Graph}
    (h : Project.graph space settings now = .ok graph) :
    nodes space settings = .ok graph.nodes := by
  rw [Project.graph] at h
  cases extracted : nodes space settings with
  | error failure =>
    rw [extracted] at h
    cases h
  | ok found =>
    rw [extracted] at h
    cases h
    rfl

theorem nodes_of_typeFiles? {space : Workspace} {settings : GeneratorSettings} {files : List Ignore.SourceFile}
    (present : typeFiles? space settings = some files) :
    nodes space settings =
      let apis := apisOf (apiSources space settings)
      let hooks := hooksOf (.ofList apis.keys) (hookSources space settings)
      .ok ⟨typesOf (files.filterMap (source? settings)), apis, hooks,
        componentsOf (.ofList hooks.keys) (componentSources space settings)⟩ := by
  delta nodes
  rw [present]

theorem nodes_of_typeFiles?_eq_none {space : Workspace} {settings : GeneratorSettings}
    (missing : typeFiles? space settings = none) :
    nodes space settings = .error (.missingTypes settings.fullTypesPath) := by
  delta nodes
  rw [missing]

theorem exists_graph {space : Workspace} {settings : GeneratorSettings} (now : String)
    (h : (typeFiles? space settings).isSome = true) :
    ∃ graph, Project.graph space settings now = .ok graph := by
  obtain ⟨files, present⟩ := Option.isSome_iff_exists.1 h
  rw [Project.graph]
  delta nodes
  rw [present]
  exact ⟨_, rfl⟩

theorem hooks_of_nodes {space : Workspace} {settings : GeneratorSettings} {found : Nodes}
    (h : nodes space settings = .ok found) :
    found.hooks = hooksOf (.ofList found.apis.keys) (hookSources space settings) ∧
      found.components = componentsOf (.ofList found.hooks.keys) (componentSources space settings) := by
  delta nodes at h
  split at h
  · cases h
  · cases h
    dsimp only
    exact ⟨rfl, rfl⟩

/-- The hooks of a generated graph are those its hook files declare, so hooks and components were
given the same names to look for; what they refer to is there, but for bindings. -/
theorem generated_references_closed {space : Workspace} {settings : GeneratorSettings} {now : String}
    {graph : Graph} (h : Project.graph space settings now = .ok graph) :
    (∀ name, graph.nodes.hooks.contains name = true ↔
      ∃ source ∈ hookSources space settings, name ∈ Declaration.hookNames source.text) ∧
    NameSet.ofList graph.nodes.hooks.keys = hookNamesOf (hookSources space settings) ∧
    (∀ name hook, graph.nodes.hooks.get? name = some hook → ∀ other ∈ hook.dependencies.names,
      other ≠ name ∧ (graph.nodes.apis.contains other = true ∨ graph.nodes.hooks.contains other = true)) ∧
    (∀ name component, graph.nodes.components.get? name = some component →
      ∀ hook ∈ component.hooks.names, graph.nodes.hooks.contains hook = true) ∧
    (∀ reference, reference ∈ graph.nodes.dangling ↔ reference.kind = .binding ∧
      ∃ hook, graph.nodes.hooks.get? reference.source = some hook ∧
        hook.binding = some reference.target ∧ graph.nodes.apis.contains reference.target = false) ∧
    graph.nodes.dangling.Nodup := by
  obtain ⟨hooks, components⟩ := hooks_of_nodes (nodes_of_graph h)
  have declared (name : String) : graph.nodes.hooks.contains name = true ↔
      ∃ source ∈ hookSources space settings, name ∈ Declaration.hookNames source.text := by
    rw [hooks, contains_hooksOf_iff, mem_hookNamesOf_iff]
  have used (name : String) (component : Component)
      (found : graph.nodes.components.get? name = some component) (hook : String)
      (used : hook ∈ component.hooks.names) : graph.nodes.hooks.contains hook = true := by
    rw [components] at found
    have listed := mem_hooks_of_componentsOf found used
    rwa [NameSet.mem_ofList, Dict.mem_keys_iff] at listed
  refine ⟨declared, ?_, ?_, used, ?_, Nodes.nodup_dangling _⟩
  · rw [hooks]
    exact ofList_keys_hooksOf
  · intro name hook found other mentioned
    rw [hooks] at found
    obtain ⟨differs, known⟩ := mem_dependencies_of_hooksOf found mentioned
    rw [NameSet.mem_ofList, Dict.mem_keys_iff, ← hooks] at known
    exact ⟨differs, known⟩
  · intro reference
    rw [Nodes.mem_dangling_iff]
    constructor
    · rintro (binding | ⟨-, component, found, mentioned, absent⟩)
      · exact binding
      · rw [used _ _ found _ mentioned] at absent
        cases absent
    · exact .inl

def boundSpace : Workspace where
  tree := ⟨[(["h"], .directory),
    (["h", "useA.ts"], .file (.text "export const useA = () => useQuery(\x7b queryFn: getA \x7d)\n")),
    (["t.ts"], .file (.text "export type A = string\n"))], by simp; decide⟩
  directory := []

def boundSettings : GeneratorSettings := { sourceRoot := "", typesPath := "t.ts", hooksDir := "h" }

theorem generated_references_closed_bound : ∃ graph, Project.graph boundSpace boundSettings "" = .ok graph ∧
    NameSet.ofList graph.nodes.hooks.keys = hookNamesOf (hookSources boundSpace boundSettings) ∧
    ∀ reference ∈ graph.nodes.dangling, reference.kind = .binding := by
  have present : (typeFiles? boundSpace boundSettings).isSome = true := by cbv
  obtain ⟨graph, built⟩ := exists_graph "" present
  obtain ⟨-, names, -, -, dangling, -⟩ := generated_references_closed built
  exact ⟨graph, built, names, fun reference listed => ((dangling reference).1 listed).1⟩

end Project

end FrontendAtlas

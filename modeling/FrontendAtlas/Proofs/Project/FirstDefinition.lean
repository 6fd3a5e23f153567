import FrontendAtlas.Proofs.Declaration.FirstDeclaration
import FrontendAtlas.Proofs.Ignore.Scan
import FrontendAtlas.Proofs.Project.ReferenceClosure

namespace FrontendAtlas.Project

open FrontendAtlas.Ignore FrontendAtlas.Source FrontendAtlas.Declaration

inductive Role where
  | types | apis | hooks | components
  deriving DecidableEq

namespace Role

def Node : Role → Type
  | types => TypeDeclaration
  | apis => ApiFunction
  | hooks => Hook
  | components => Component

def directory (settings : GeneratorSettings) : Role → String
  | types => settings.fullTypesPath
  | apis => settings.fullApiDir
  | hooks => settings.fullHooksDir
  | components => settings.fullComponentsDir

def extensions (settings : GeneratorSettings) : Role → List String
  | types => ["ts"]
  | apis => ["ts"]
  | hooks => ["ts", "tsx"]
  | components => settings.componentExtensions

def isDeep : Role → Bool
  | types => true
  | apis => false
  | hooks => false
  | components => true

def accepts (settings : GeneratorSettings) : Role → SourceFile → Bool
  | types, _ => true
  | apis, file => isApiFile settings file
  | hooks, file => isHookFile settings file
  | components, file => !settings.ignores file.path

def fileAt (settings : GeneratorSettings) (role : Role) (path : List String) (content : Content) : SourceFile :=
  ⟨Path.join (role.directory settings) (String.intercalate "/" path), content⟩

end Role

def collection (found : Nodes) : (role : Role) → Dict role.Node
  | .types => found.types
  | .apis => found.apis
  | .hooks => found.hooks
  | .components => found.components

/-- A file of text is selected for a role: it is taken by the walk through the role's directory and
accepted, or it is the one file of types. -/
inductive Selected (space : Workspace) (settings : GeneratorSettings) : Role → Location → Source → Prop
  | walked {role : Role} {base : Location} {path : List String} {content : Content} {source : Source}
      (located : space.locate? (role.directory settings) = some base)
      (directory : space.tree.entry? base = some .directory)
      (takes : Takes space base (role.extensions settings) role.isDeep path content)
      (accepted : role.accepts settings (role.fileAt settings path content) = true)
      (readable : source? settings (role.fileAt settings path content) = some source) :
      Selected space settings role (base ++ path) source
  | given {base : Location} {content : Content} {source : Source}
      (located : space.locate? settings.fullTypesPath = some base)
      (file : space.tree.entry? base = some (.file content))
      (readable : source? settings ⟨settings.fullTypesPath, content⟩ = some source) :
      Selected space settings .types base source

def Yields (found : Nodes) : (role : Role) → Source → String → role.Node → Prop
  | .types, source, name, node =>
    FirstRead (hits typeHead (stripComments source.text)) (fun hit => some (readType source.label hit)) name node
  | .apis, source, name, node =>
    FirstRead (hits asyncFunction (stripComments source.text)) (readApi? source.label) name node ∨
      (∀ hit ∈ hits asyncFunction (stripComments source.text), ∀ node,
        readApi? source.label hit ≠ some (name, node)) ∧
        FirstRead (hits asyncArrow (stripComments source.text)) (readApi? source.label) name node
  | .hooks, source, name, node =>
    FirstRead (hits hookFunction (stripComments source.text) ++ hits hookConstant (stripComments source.text))
      (readHookNode? source.label (.ofList found.apis.keys) (.ofList found.hooks.keys)) name node
  | .components, source, name, node =>
    component? source.text source.path source.label (.ofList found.hooks.keys) = some node ∧
      Component.name node = name

def sourcesListed (listing : List (Location × Entry)) (space : Workspace) (settings : GeneratorSettings)
    (role : Role) : List (Location × Source) :=
  match space.locate? (role.directory settings) with
  | none => []
  | some base =>
    match space.tree.entry? base with
    | none => []
    | some .directory =>
      (inOrder (walk space base (role.extensions settings) role.isDeep listing)).filterMap
        fun (path, content) =>
          let file := role.fileAt settings path content
          if role.accepts settings file then (source? settings file).map (base ++ path, ·) else none
    | some (.file content) =>
      if role = .types then ((source? settings ⟨settings.fullTypesPath, content⟩).map (base, ·)).toList else []

def nodesListed (listing : Role → List (Location × Entry)) (space : Workspace) (settings : GeneratorSettings) :
    Except Failure Nodes :=
  let sources (role : Role) := (sourcesListed (listing role) space settings role).map (·.2)
  if (space.entry? settings.fullTypesPath).isNone then .error (.missingTypes settings.fullTypesPath)
  else
    let types := typesOf (sources .types)
    let apis := apisOf (sources .apis)
    let hooks := hooksOf (.ofList apis.keys) (sources .hooks)
    let components := componentsOf (.ofList hooks.keys) (sources .components)
    .ok ⟨types, apis, hooks, components⟩

variable {space : Workspace} {settings : GeneratorSettings} {role : Role}

theorem sourcesListed_of_perm {listing : List (Location × Entry)} (same : listing.Perm space.tree.entries) :
    sourcesListed listing space settings role = sourcesListed space.tree.entries space settings role := by
  simp only [sourcesListed, inOrder_walk_of_perm same]

theorem mem_sourcesListed_iff {place : Location} {source : Source} :
    (place, source) ∈ sourcesListed space.tree.entries space settings role ↔
      Selected space settings role place source := by
  rw [sourcesListed]
  constructor
  · intro listed
    split at listed
    case h_1 => cases listed
    case h_2 base located =>
      split at listed
      case h_1 => cases listed
      case h_2 directory =>
        simp only [List.mem_filterMap, Prod.exists, mem_inOrder, mem_walk_iff (.refl _),
          Option.ite_none_right_eq_some, Option.map_eq_some_iff, Prod.mk.injEq] at listed
        obtain ⟨path, content, takes, accepted, _, readable, rfl, rfl⟩ := listed
        exact .walked located directory takes accepted readable
      case h_3 content file =>
        split at listed
        case isTrue types =>
          cases types
          simp only [Option.mem_toList, Option.map_eq_some_iff, Prod.mk.injEq] at listed
          obtain ⟨_, readable, rfl, rfl⟩ := listed
          exact .given located file readable
        case isFalse => cases listed
  · intro selected
    cases selected with
    | walked located directory takes accepted readable =>
      simp only [located, directory, List.mem_filterMap, Prod.exists, mem_inOrder, mem_walk_iff (.refl _)]
      exact ⟨_, _, takes, by rw [if_pos accepted, readable]; rfl⟩
    | given located file readable =>
      have found : space.locate? (Role.types.directory settings) = some place := located
      simp [found, file, readable]

theorem pairwise_sourcesListed :
    (sourcesListed space.tree.entries space settings role).Pairwise fun a b => a.1 < b.1 := by
  rw [sourcesListed]
  split
  case h_1 => exact .nil
  case h_2 base located =>
    split
    case h_1 => exact .nil
    case h_2 directory =>
      rw [List.pairwise_filterMap]
      apply (pairwise_inOrder (nodup_paths_walk (.refl _))).imp
      rintro ⟨path, content⟩ ⟨path', content'⟩ below a read b read'
      simp only [Option.ite_none_right_eq_some, Option.map_eq_some_iff] at read read'
      obtain ⟨-, _, -, rfl⟩ := read
      obtain ⟨-, _, -, rfl⟩ := read'
      exact List.append_left_lt below
    case h_3 content file =>
      split
      · cases source? settings ⟨settings.fullTypesPath, content⟩ <;> simp
      · exact .nil

theorem map_sourcesListed
    (walked : role = .types → ∀ content, space.entry? settings.fullTypesPath ≠ some (.file content)) :
    (sourcesListed space.tree.entries space settings role).map (·.2) =
      ((scan space (role.directory settings) (role.extensions settings) role.isDeep).filter
        (role.accepts settings)).filterMap (source? settings) := by
  rw [scan_eq, sourcesListed]
  cases located : space.locate? (role.directory settings) with
  | none => rfl
  | some base =>
    dsimp only [Option.elim_some]
    rw [filesIn]
    cases held : space.tree.entry? base with
    | none => rfl
    | some entry =>
      cases entry with
      | directory =>
        rw [if_pos rfl, List.map_filterMap, List.filterMap_filter, List.filterMap_map]
        apply List.filterMap_congr
        rintro ⟨path, content⟩ -
        let file := role.fileAt settings path content
        change (if role.accepts settings file then (source? settings file).map (base ++ path, ·) else none).map (·.2) =
          if role.accepts settings file then source? settings file else none
        split <;> simp
      | file content =>
        have other : role ≠ .types := by
          rintro rfl
          apply walked rfl content
          change (space.locate? (Role.types.directory settings)).bind space.tree.entry? = _
          rw [located, Option.bind_some, held]
        simp [other]

theorem sources_types {files : List SourceFile} (present : typeFiles? space settings = some files) :
    (sourcesListed space.tree.entries space settings .types).map (·.2) = files.filterMap (source? settings) := by
  cases held : space.entry? settings.fullTypesPath with
  | none =>
    rw [typeFiles?, held] at present
    cases present
  | some entry =>
    rw [typeFiles?, held] at present
    cases entry with
    | directory =>
      cases present
      rw [map_sourcesListed (fun _ content => by simp [held])]
      congr 1
      exact List.filter_true _
    | file content =>
      cases present
      obtain ⟨base, located, file⟩ := Option.bind_eq_some_iff.1 held
      have found : space.locate? (Role.types.directory settings) = some base := located
      rw [sourcesListed]
      simp only [found, file, if_true, List.filterMap_cons, List.filterMap_nil]
      cases source? settings ⟨settings.fullTypesPath, content⟩ <;> rfl

theorem isNone_typeFiles? : (typeFiles? space settings).isNone = (space.entry? settings.fullTypesPath).isNone := by
  rw [typeFiles?]
  cases space.entry? settings.fullTypesPath with
  | none => rfl
  | some entry => cases entry <;> rfl

theorem nodesListed_entries : nodesListed (fun _ => space.tree.entries) space settings = nodes space settings := by
  have apis : (sourcesListed space.tree.entries space settings .apis).map (·.2) = apiSources space settings :=
    map_sourcesListed nofun
  have hooks : (sourcesListed space.tree.entries space settings .hooks).map (·.2) = hookSources space settings :=
    map_sourcesListed nofun
  have components : (sourcesListed space.tree.entries space settings .components).map (·.2) =
      componentSources space settings := map_sourcesListed nofun
  rw [nodesListed, ← isNone_typeFiles?]
  cases present : typeFiles? space settings with
  | none => exact (nodes_of_typeFiles?_eq_none present).symm
  | some files =>
    rw [nodes_of_typeFiles? present]
    simp only [sources_types present, apis, hooks, components]
    rfl

def yielded? (found : Nodes) (source : Source) (name : String) : (role : Role) → Option role.Node
  | .types => (types source.text source.label).get? name
  | .apis => (apiFunctions source.text source.label).get? name
  | .hooks => (hooks source.text source.label (.ofList found.apis.keys) (.ofList found.hooks.keys)).get? name
  | .components =>
    (component? source.text source.path source.label (.ofList found.hooks.keys)).filter (Component.name · == name)

variable {found : Nodes} {source : Source} {name : String}

theorem yielded?_eq_some_iff {node : role.Node} :
    yielded? found source name role = some node ↔ Yields found role source name node := by
  cases role with
  | types => exact get?_types_eq_some_iff
  | apis => exact get?_apiFunctions_eq_some_iff
  | hooks => exact get?_hooks_eq_some_iff
  | components =>
    have named (component? : Option Component) (node : Component) :
        component?.filter (·.name == name) = some node ↔ component? = some node ∧ node.name = name := by
      rw [Option.filter_eq_some_iff, beq_iff_eq]
    exact named _ node

section Search

variable (sources : List Source) (apis known : NameSet)

theorem get?_typesOf (name : String) : (typesOf sources).get? name =
    sources.findSome? fun source => (types source.text source.label).get? name := by
  rw [typesOf, get?_mergeAll, List.findSome?_map]
  rfl

theorem get?_apisOf (name : String) : (apisOf sources).get? name =
    sources.findSome? fun source => (apiFunctions source.text source.label).get? name := by
  rw [apisOf, get?_mergeAll, List.findSome?_map]
  rfl

theorem get?_hooksOf (name : String) : (hooksOf apis sources).get? name =
    sources.findSome? fun source =>
      (hooks source.text source.label apis (.ofList (hooksOf apis sources).keys)).get? name := by
  rw [ofList_keys_hooksOf, hooksOf, get?_mergeAll, List.findSome?_map]
  rfl

theorem get?_componentsOf (name : String) : (componentsOf known sources).get? name =
    sources.findSome? fun source =>
      (component? source.text source.path source.label known).filter (·.name == name) := by
  rw [componentsOf, Dict.get?_ofListFirst_filterMap]
  congr 1
  funext source
  cases component? source.text source.path source.label known with
  | none => rfl
  | some component =>
    rw [Option.map_some, Option.filter_some, Option.filter_some]
    split <;> rfl

end Search

theorem get?_collection (h : nodes space settings = .ok found) : (collection found role).get? name =
    (sourcesListed space.tree.entries space settings role).findSome? fun item =>
      yielded? found item.2 name role := by
  have searched : (collection found role).get? name =
      ((sourcesListed space.tree.entries space settings role).map (·.2)).findSome? fun source =>
        yielded? found source name role := by
    rw [← nodesListed_entries, nodesListed] at h
    split at h
    case isTrue => cases h
    case isFalse =>
      cases h
      cases role with
      | types => exact get?_typesOf ..
      | apis => exact get?_apisOf ..
      | hooks => exact get?_hooksOf ..
      | components => exact get?_componentsOf ..
  rw [searched, List.findSome?_map]
  rfl

theorem contains_collection_iff (h : nodes space settings = .ok found) :
    (collection found role).contains name = true ↔ ∃ place source node,
      Selected space settings role place source ∧ Yields found role source name node := by
  rw [Dict.contains, get?_collection h, List.findSome?_isSome_iff]
  simp only [Prod.exists, mem_sourcesListed_iff, Option.isSome_iff_exists, yielded?_eq_some_iff, exists_and_left]

theorem get?_collection_eq_some_iff (h : nodes space settings = .ok found) {node : role.Node} :
    (collection found role).get? name = some node ↔
      First (fun place node => ∃ source, Selected space settings role place source ∧
        Yields found role source name node) node := by
  rw [get?_collection h, findSome?_eq_some_iff_first pairwise_sourcesListed]
  apply First.congr
  intro place node
  simp only [Prod.exists, mem_sourcesListed_iff, yielded?_eq_some_iff]
  constructor
  · rintro ⟨_, source, selected, rfl, yields⟩
    exact ⟨source, selected, yields⟩
  · rintro ⟨source, selected, yields⟩
    exact ⟨place, source, selected, rfl, yields⟩

/-- The first definition of a name counts.  A collection has a node of a name just when a file selected
for it yields one, and the node is that of the first such file, as places are compared part by part;
within a file, that of the first declaration.  In whatever order the walks list the tree, the nodes are
the same. -/
theorem first_definition_counts (space : Workspace) (settings : GeneratorSettings) :
    (∀ listing : Role → List (Location × Entry), (∀ role, (listing role).Perm space.tree.entries) →
      nodesListed listing space settings = nodes space settings) ∧
    ((∃ found, nodes space settings = .ok found) ↔ (space.entry? settings.fullTypesPath).isSome = true) ∧
    ∀ found, nodes space settings = .ok found → ∀ (role : Role) (name : String),
      ((collection found role).contains name = true ↔ ∃ place source node,
        Selected space settings role place source ∧ Yields found role source name node) ∧
      ∀ node, (collection found role).get? name = some node ↔
        First (fun place node => ∃ source, Selected space settings role place source ∧
          Yields found role source name node) node := by
  refine ⟨?_, ?_, ?_⟩
  · intro listing same
    rw [← nodesListed_entries]
    simp only [nodesListed, sourcesListed_of_perm (same _)]
  · rw [← nodesListed_entries, nodesListed]
    cases space.entry? settings.fullTypesPath <;> simp
  · intro found h role name
    exact ⟨contains_collection_iff h, fun node => get?_collection_eq_some_iff h⟩

def twinSpace : Workspace where
  tree := ⟨[(["s"], .directory),
    (["s", "one.ts"], .file (.text
      "export const f = async (): Promise<A> => a\nexport async function f(): Promise<B> \x7b get('/b') \x7d\n")),
    (["t"], .directory),
    (["t", "a"], .directory),
    (["t", "a", "z.ts"], .file (.text "export enum A \x7b\x7d\nexport type A = string\n")),
    (["t", "a-b"], .directory),
    (["t", "a-b", "z.ts"], .file (.text "export interface A \x7b\x7d\n"))], by simp; decide⟩
  directory := []

def twinSettings : GeneratorSettings := { sourceRoot := "", typesPath := "t", apiDir := "s" }

theorem first_definition_counts_twins :
    (∀ role : Role, ((fun _ => twinSpace.tree.entries.reverse) role).Perm twinSpace.tree.entries) ∧
    ∃ found, nodes twinSpace twinSettings = .ok found ∧
      nodesListed (fun _ => twinSpace.tree.entries.reverse) twinSpace twinSettings = .ok found ∧
      First (fun place node => ∃ source, Selected twinSpace twinSettings .types place source ∧
        Yields found .types source "A" node) (⟨"A", .enum, ∅, "t/a/z.ts"⟩ : TypeDeclaration) ∧
      First (fun place node => ∃ source, Selected twinSpace twinSettings .apis place source ∧
        Yields found .apis source "f" node) (⟨"f", "s/one.ts", some "/b", some .get, "B"⟩ : ApiFunction) := by
  obtain ⟨listed, succeeds, counts⟩ := first_definition_counts twinSpace twinSettings
  obtain ⟨found, ran⟩ := succeeds.2 (by decide +kernel)
  have reversed (_ : Role) : twinSpace.tree.entries.reverse.Perm twinSpace.tree.entries := List.reverse_perm _
  have enum : found.types.get? "A" = some ⟨"A", .enum, ∅, "t/a/z.ts"⟩ := by
    -- More than one file is not sorted by evaluation.
    have walked : (walk twinSpace ["t"] ["ts"] true twinSpace.tree.entries).Pairwise fun a b => a.1 < b.1 := by
      decide +kernel
    have located : twinSpace.locate? twinSettings.fullTypesPath = some ["t"] := by decide +kernel
    have directory : twinSpace.tree.entry? ["t"] = some .directory := by decide +kernel
    have present : typeFiles? twinSpace twinSettings =
        some (scan twinSpace twinSettings.fullTypesPath ["ts"] true) := by
      rw [typeFiles?, Workspace.entry?, located, Option.bind_some, directory]
    rw [nodes_of_typeFiles? present] at ran
    cases ran
    simp only [scan, located, directory, if_true, inOrder_of_sorted walked]
    decide +kernel
  have function : found.apis.get? "f" = some ⟨"f", "s/one.ts", some "/b", some .get, "B"⟩ := by
    have evaluated : (nodes twinSpace twinSettings).toOption.bind (·.apis.get? "f") =
        some ⟨"f", "s/one.ts", some "/b", some .get, "B"⟩ := by decide +kernel
    rwa [ran] at evaluated
  exact ⟨reversed, found, ran, (listed _ reversed).trans ran, ((counts found ran .types "A").2 _).1 enum,
    ((counts found ran .apis "f").2 _).1 function⟩

end FrontendAtlas.Project

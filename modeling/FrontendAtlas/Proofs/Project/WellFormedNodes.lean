import FrontendAtlas.Proofs.Declaration.FirstDeclaration
import FrontendAtlas.Proofs.Project.ReferenceClosure

namespace FrontendAtlas

def Text.IsTrimmed (text : List Char) : Prop :=
  text ≠ [] ∧ (∀ c ∈ text.head?, isBlank c = false) ∧ ∀ c ∈ text.getLast?, isBlank c = false

structure TypeDeclaration.WellFormed (type : TypeDeclaration) : Prop where
  kind : type.kind = .interface ∨ type.kind = .synonym ∨ type.kind = .enum
  plain : type.kind ≠ .interface → type.properties = ∅
  trimmed : ∀ name expression, type.properties.get? name = some expression → Text.IsTrimmed expression.toList

def ApiFunction.WellFormed (function : ApiFunction) : Prop :=
  function.method.isSome = function.endpoint.isSome

def Hook.IsName (name : List Char) : Prop :=
  ∃ c rest, name = "use".toList ++ c :: rest ∧ (c.isUpper = true ∨ c.isDigit = true ∨ c = '_' ∨ c = '$')

structure Hook.WellFormed (hook : Hook) : Prop where
  name : Hook.IsName hook.name.toList
  key : ∃ first more, hook.cacheKey = some (first :: more)

structure Component.WellFormed (component : Component) : Prop where
  capital : ∃ c rest, component.name.toList = c :: rest ∧ c.isUpper = true
  small : ∃ c ∈ component.name.toList, c.isLower = true
  joined : '_' ∉ component.name.toList

def Dict.All {α : Type} (dict : Dict α) (good : String → α → Prop) : Prop :=
  ∀ name value, dict.get? name = some value → good name value

structure Nodes.WellFormed (nodes : Nodes) : Prop where
  types : nodes.types.All fun name type => type.name = name ∧ type.WellFormed
  apis : nodes.apis.All fun name function => function.name = name ∧ function.WellFormed
  hooks : nodes.hooks.All fun name hook => hook.name = name ∧ hook.WellFormed
  components : nodes.components.All fun name component => component.name = name ∧ component.WellFormed

section All

variable {α : Type} {good : String → α → Prop}

theorem Dict.all_empty : (∅ : Dict α).All good := by
  intro name value found
  cases found

theorem Dict.all_ofListFirst {entries : List (String × α)} (each : ∀ entry ∈ entries, good entry.1 entry.2) :
    (Dict.ofListFirst entries).All good := by
  intro name value found
  rw [Dict.get?_ofListFirst] at found
  exact each _ (Dict.mem_of_lookup found)

theorem Project.all_mergeAll {found : List (Dict α)} (each : ∀ dict ∈ found, dict.All good) :
    (Project.mergeAll found).All good := by
  intro name value here
  rw [Project.get?_mergeAll] at here
  obtain ⟨dict, listed, here⟩ := List.exists_of_findSome?_eq_some here
  exact each dict listed name value here

end All

namespace Text

theorem head?_trimEnd {text : List Char} (nonempty : trimEnd text ≠ []) :
    (trimEnd text).head? = text.head? := by
  have split : trimEnd text <+: text := by
    rw [trimEnd, ← List.reverse_suffix, List.reverse_reverse]
    exact List.dropWhile_suffix _
  obtain ⟨rest, split⟩ := split
  cases start : trimEnd text with
  | nil => exact absurd start nonempty
  | cons c more =>
    rw [start] at split
    rw [← split]
    rfl

theorem isTrimmed_trim {text : List Char} (nonempty : trim text ≠ []) : IsTrimmed (trim text) := by
  refine ⟨nonempty, ?_, ?_⟩
  · intro c first
    rw [trim, head?_trimEnd nonempty, trimStart] at first
    have visible := List.head?_dropWhile_not isBlank text
    rw [first] at visible
    exact visible
  · intro c last
    rw [trim, trimEnd, List.getLast?_reverse] at last
    have visible := List.head?_dropWhile_not isBlank (trimStart text).reverse
    rw [last] at visible
    exact visible

end Text

namespace Declaration

open FrontendAtlas.Text FrontendAtlas.Source

variable {source : List Char} {path : String}

theorem isTrimmed_of_typedName? {text name type : List Char} (read : typedName? text = some (name, type)) :
    IsTrimmed type := by
  simp only [typedName?, Option.bind_eq_bind, Option.bind_eq_some_iff] at read
  obtain ⟨⟨_, rest⟩, -, read⟩ := read
  obtain ⟨written, -, read⟩ := read
  split at read
  case isTrue => cases read
  case isFalse visible =>
    cases read
    exact isTrimmed_trim fun empty => visible (by simp [empty])

theorem isTrimmed_of_property? {member name type : List Char} (read : property? member = some (name, type)) :
    IsTrimmed type := by
  simp only [property?, Option.orElse_eq_orElse, Option.orElse_eq_or, Option.or_eq_some_iff,
    Option.bind_eq_some_iff] at read
  rcases read with ⟨rest, -, read⟩ | ⟨-, read⟩
  · exact isTrimmed_of_typedName? read
  · exact isTrimmed_of_typedName? read

theorem all_properties (body : List Char) :
    (properties body).All fun _ expression => IsTrimmed expression.toList := by
  apply Dict.all_ofListFirst
  intro entry listed
  obtain ⟨member, -, yielded⟩ := List.mem_filterMap.1 listed
  obtain ⟨⟨name, type⟩, read, rfl⟩ := Option.map_eq_some_iff.1 yielded
  rw [String.toList_ofList]
  exact isTrimmed_of_property? read

theorem all_interfaceProperties (text : List Char) :
    (interfaceProperties text).All fun _ expression => IsTrimmed expression.toList := by
  rw [interfaceProperties]
  split
  · exact all_properties _
  · exact Dict.all_empty

theorem kind_of_exportedType? {text name rest : List Char} {kind : TypeKind}
    (read : exportedType? text = some ((kind, name), rest)) :
    kind = .interface ∨ kind = .synonym ∨ kind = .enum := by
  simp only [exportedType?, Option.bind_eq_bind, Option.bind_eq_some_iff, Option.pure_def,
    Option.some.injEq, Prod.exists, Prod.mk.injEq] at read
  obtain ⟨_, -, _, _, known, _, _, -, ⟨rfl, rfl⟩, rfl⟩ := read
  simp only [typeKind?, Option.orElse_eq_orElse, Option.orElse_eq_or, Option.or_eq_some_iff,
    Option.map_eq_some_iff, Prod.mk.injEq] at known
  rcases known with ⟨_, -, rfl, -⟩ | ⟨-, ⟨_, -, rfl, -⟩ | ⟨-, _, -, rfl, -⟩⟩
  · exact .inl rfl
  · exact .inr (.inl rfl)
  · exact .inr (.inr rfl)

theorem exists_read_of_mem_hits {α : Type} {reader : List Char → Option (α × List Char)} {text : List Char}
    {hit : Hit α} (found : hit ∈ hits (atLineStart reader) text) :
    ∃ back, reader back = some (hit.value, hit.rest) := by
  obtain ⟨_, back, -, -, fits⟩ := fits_of_mem_hitsFrom found
  rw [atLineStart] at fits
  split at fits
  · exact ⟨_, fits⟩
  · cases fits

theorem all_types (source : List Char) (path : String) :
    (types source path).All fun name type => type.name = name ∧ type.WellFormed := by
  apply Dict.all_ofListFirst
  intro entry listed
  obtain ⟨hit, found, rfl⟩ := List.mem_map.1 listed
  obtain ⟨_, read⟩ := exists_read_of_mem_hits found
  refine ⟨rfl, kind_of_exportedType? read, ?_, ?_⟩
  · intro other
    exact if_neg other
  · dsimp only
    split
    · exact all_interfaceProperties hit.rest
    · exact Dict.all_empty

theorem all_apiFunctions (source : List Char) (path : String) :
    (apiFunctions source path).All fun name function => function.name = name ∧ function.WellFormed := by
  apply Dict.all_ofListFirst
  intro entry listed
  obtain ⟨hit, -, read⟩ := List.mem_filterMap.1 listed
  obtain ⟨⟨promised, body⟩, -, read⟩ := Option.bind_eq_some_iff.1 read
  cases read
  refine ⟨rfl, ?_⟩
  rw [ApiFunction.WellFormed, Option.isSome_map, Option.isSome_map]

theorem isName_of_hookName? {text name rest : List Char} (read : hookName? text = some (name, rest)) :
    Hook.IsName name := by
  obtain ⟨after, -, read⟩ := Option.bind_eq_some_iff.1 read
  cases after with
  | nil => cases read
  | cons c after =>
    dsimp only at read
    split at read
    case isTrue marked =>
      cases read
      refine ⟨c, _, rfl, ?_⟩
      simpa [or_assoc] using marked
    case isFalse => cases read

theorem isName_of_exportedHookFunction? {text name rest : List Char}
    (read : exportedHookFunction? text = some (name, rest)) : Hook.IsName name := by
  simp only [exportedHookFunction?, Option.bind_eq_bind, Option.bind_eq_some_iff, Option.pure_def,
    Option.some.injEq, Prod.exists, Prod.mk.injEq] at read
  obtain ⟨_, -, _, -, _, _, named, _, -, rfl, rfl⟩ := read
  exact isName_of_hookName? named

theorem isName_of_exportedHookConstant? {text name rest : List Char}
    (read : exportedHookConstant? text = some (name, rest)) : Hook.IsName name := by
  simp only [exportedHookConstant?, Option.bind_eq_bind, Option.bind_eq_some_iff, Option.pure_def,
    Option.some.injEq, Prod.exists, Prod.mk.injEq] at read
  obtain ⟨_, -, _, -, _, _, named, _, -, _, -, rfl, rfl⟩ := read
  exact isName_of_hookName? named

theorem isName_of_mem_hookDeclarations {text : List Char} {declaration : HookDeclaration}
    (declared : declaration ∈ hookDeclarations text) : Hook.IsName declaration.name.toList := by
  obtain ⟨hit, found, read⟩ := List.mem_filterMap.1 ((hookDeclarations_perm text).mem_iff.1 declared)
  obtain ⟨body, -, rfl⟩ := Option.map_eq_some_iff.1 read
  rw [String.toList_ofList]
  rcases List.mem_append.1 found with function | constant
  · obtain ⟨_, read⟩ := exists_read_of_mem_hits function
    exact isName_of_exportedHookFunction? read
  · obtain ⟨_, read⟩ := exists_read_of_mem_hits constant
    exact isName_of_exportedHookConstant? read

theorem exists_cons_of_writtenKey? {window : List Char} {key : List String}
    (written : writtenKey? window = some key) : ∃ first more, key = first :: more := by
  obtain ⟨hit, -, read⟩ := List.exists_of_findSome?_eq_some written
  obtain ⟨⟨array, _⟩, -, read⟩ := Option.bind_eq_some_iff.1 read
  dsimp only at read
  split at read
  case h_1 => cases read
  case h_2 keys nonempty =>
    cases read
    exact List.exists_cons_of_ne_nil nonempty

theorem exists_derivedKey? {name : String} (named : Hook.IsName name.toList) :
    ∃ stem, derivedKey? name = some [stem] := by
  obtain ⟨c, rest, split, -⟩ := named
  have found : word? "use" name.toList = some (c :: rest) := by
    rw [split]
    exact after?_append _ _
  rw [derivedKey?, found]
  exact ⟨_, rfl⟩

theorem HookDeclaration.wellFormed_hook {declaration : HookDeclaration} (named : Hook.IsName declaration.name.toList)
    (path : String) (apis names : NameSet) : (declaration.hook path apis names).WellFormed := by
  refine ⟨named, ?_⟩
  rw [hook]
  dsimp only
  cases written : writtenKey? (declaration.body.take hookWindow) with
  | some key =>
    obtain ⟨first, more, rfl⟩ := exists_cons_of_writtenKey? written
    exact ⟨first, more, rfl⟩
  | none =>
    obtain ⟨stem, derived⟩ := exists_derivedKey? named
    exact ⟨stem, [], derived⟩

theorem all_hooks (source : List Char) (path : String) (apis names : NameSet) :
    (hooks source path apis names).All fun name hook => hook.name = name ∧ hook.WellFormed := by
  apply Dict.all_ofListFirst
  intro entry listed
  obtain ⟨declaration, declared, rfl⟩ := List.mem_map.1 listed
  exact ⟨rfl, declaration.wellFormed_hook (isName_of_mem_hookDeclarations declared) path apis names⟩

theorem isComponentName_of_componentName? {text : List Char} {file name : String}
    (found : componentName? text file = some name) : isComponentName name.toList = true := by
  simp only [componentName?, Option.orElse_eq_orElse, Option.orElse_eq_or, Option.or_eq_some_iff,
    Option.map_eq_some_iff, Option.filter_eq_some_iff] at found
  rcases found with ⟨hit, chosen, rfl⟩ | ⟨-, -, named⟩
  · rw [String.toList_ofList]
    rcases chosen with certain | ⟨-, first⟩
    · exact (List.mem_filter.1 (List.mem_of_find?_eq_some certain)).2
    · exact (List.mem_filter.1 (List.mem_of_mem_head? first)).2
  · exact named

theorem wellFormed_of_component? {file : String} {names : NameSet} {component : Component}
    (found : component? source file path names = some component) : component.WellFormed := by
  simp only [component?, Option.bind_eq_bind, Option.bind_eq_some_iff, pure, Option.some.injEq] at found
  obtain ⟨name, named, rfl⟩ := found
  have test := isComponentName_of_componentName? named
  simp only [isComponentName, Bool.and_eq_true, Option.any_eq_true, List.any_eq_true, Bool.not_eq_true',
    List.contains_eq_mem, decide_eq_false_iff_not] at test
  obtain ⟨⟨⟨c, first, capital⟩, small⟩, joined⟩ := test
  obtain ⟨rest, split⟩ := List.head?_eq_some_iff.1 first
  exact ⟨⟨c, rest, split, capital⟩, small, joined⟩

end Declaration

namespace Project

variable {space : Workspace} {settings : GeneratorSettings}

theorem wellFormed_nodes {found : Nodes} (built : nodes space settings = .ok found) : found.WellFormed := by
  cases present : typeFiles? space settings with
  | none =>
    rw [nodes_of_typeFiles?_eq_none present] at built
    cases built
  | some files =>
    rw [nodes_of_typeFiles? present] at built
    cases built
    refine ⟨?_, ?_, ?_, ?_⟩
    · apply all_mergeAll
      intro dict listed
      obtain ⟨source, -, rfl⟩ := List.mem_map.1 listed
      exact Declaration.all_types source.text source.label
    · apply all_mergeAll
      intro dict listed
      obtain ⟨source, -, rfl⟩ := List.mem_map.1 listed
      exact Declaration.all_apiFunctions source.text source.label
    · apply all_mergeAll
      intro dict listed
      obtain ⟨source, -, rfl⟩ := List.mem_map.1 listed
      exact Declaration.all_hooks source.text source.label _ _
    · apply Dict.all_ofListFirst
      intro entry listed
      obtain ⟨source, -, yielded⟩ := List.mem_filterMap.1 listed
      obtain ⟨component, extracted, rfl⟩ := Option.map_eq_some_iff.1 yielded
      exact ⟨rfl, Declaration.wellFormed_of_component? extracted⟩

/-- The nodes of every graph that can be built are well formed. -/
theorem wellFormed_of_graph {now : String} {graph : Graph}
    (built : Project.graph space settings now = .ok graph) : graph.nodes.WellFormed :=
  wellFormed_nodes (nodes_of_graph built)

def sampleSpace : Workspace where
  tree := ⟨[(["c"], .directory),
    (["c", "Card.tsx"], .file (.text "export default () => null\n")),
    (["h"], .directory),
    (["h", "useA.ts"], .file (.text "export const useA = () => useQuery(\x7b queryFn: getA \x7d)\n")),
    (["s"], .directory),
    (["s", "a.ts"], .file (.text
      "export async function getA(): Promise<A> \x7b return get('/a') \x7d\nexport async function idle(): Promise<A> \x7b\x7d\n")),
    (["t.ts"], .file (.text "export interface A \x7b\n  id:\n    | 'x'\n    | 'y' \n\x7d\nexport enum B \x7b\x7d\n"))],
    by simp; decide⟩
  directory := []

def sampleSettings : GeneratorSettings :=
  { sourceRoot := "", typesPath := "t.ts", apiDir := "s", hooksDir := "h", componentsDir := "c" }

theorem wellFormed_of_graph_sample : ∃ graph, Project.graph sampleSpace sampleSettings "" = .ok graph ∧
    graph.nodes.WellFormed ∧ graph.nodes.types.keys = ["A", "B"] ∧ graph.nodes.apis.keys = ["getA", "idle"] ∧
    graph.nodes.hooks.keys = ["useA"] ∧ graph.nodes.components.keys = ["Card"] := by
  have present : (typeFiles? sampleSpace sampleSettings).isSome = true := by decide +kernel
  obtain ⟨graph, built⟩ := exists_graph "" present
  have names : (nodes sampleSpace sampleSettings).toOption.map
      (fun found => (found.types.keys, found.apis.keys, found.hooks.keys, found.components.keys)) =
      some (["A", "B"], ["getA", "idle"], ["useA"], ["Card"]) := by decide +kernel
  rw [nodes_of_graph built] at names
  simp only [Except.toOption, Option.map_some, Option.some.injEq, Prod.mk.injEq] at names
  exact ⟨graph, built, wellFormed_of_graph built, names⟩

end Project

end FrontendAtlas

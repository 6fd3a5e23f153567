import FrontendAtlas.Proofs.Declaration.PatternRest
import FrontendAtlas.Proofs.Graph.EdgeInference
import FrontendAtlas.Proofs.Project.ReferenceClosure
import FrontendAtlas.Proofs.Source.Occurrence

/-! The binding of a hook among its dependencies.  A binding is read with patterns from the beginning of
the hook's body, dependencies are whole identifiers of all of the body, and the two do not agree on what an
identifier may hold.  A binding is still set off on both sides by characters that no identifier holds on
either reading, so the body mentions it; only the hook's own name is never among its dependencies. -/

namespace FrontendAtlas.Source

open FrontendAtlas.Text

def Separated (rest text : List Char) : Prop :=
  ∃ c, isBreak c = true ∧ c :: rest <:+ text

structure Framed (name text : List Char) : Prop where
  nonempty : name ≠ []
  parts : ∀ c ∈ name, isIdentPart c = true
  stands : ∃ c back, isBreak c = true ∧ Separated (name ++ c :: back) text

variable {text rest name : List Char} {c : Char}

theorem Separated.of_suffix {more : List Char} (apart : Separated rest text) (inside : text <:+ more) :
    Separated rest more := by
  obtain ⟨c, isBreak, stands⟩ := apart
  exact ⟨c, isBreak, stands.trans inside⟩

theorem Separated.suffix (apart : Separated rest text) : rest <:+ text := by
  obtain ⟨c, -, stands⟩ := apart
  exact (List.suffix_cons c rest).trans stands

theorem Separated.trimStart (apart : Separated rest text) : Separated (trimStart rest) text := by
  induction rest with
  | nil => exact apart
  | cons c rest ih =>
    cases blank : isBlank c with
    | false => rwa [trimStart_cons_of_not_blank blank]
    | true =>
      obtain ⟨d, -, stands⟩ := apart
      rw [trimStart_cons_of_blank blank]
      exact ih ⟨c, isBreak_of_isBlank blank, (List.suffix_cons d (c :: rest)).trans stands⟩

theorem separated_of_keyword? {word : String} (read : keyword? word text = some rest) : Separated rest text := by
  obtain ⟨after, found, gap⟩ := Option.bind_eq_some_iff.1 read
  refine Separated.of_suffix ?_ (suffix_of_word? found)
  cases after with
  | nil => cases gap
  | cons c after =>
    rw [gap?] at gap
    split at gap
    case isTrue blank =>
      cases gap
      exact Separated.trimStart ⟨c, isBreak_of_isBlank blank, List.suffix_refl _⟩
    case isFalse => cases gap

theorem Separated.framed {after : List Char} (apart : Separated rest text)
    (read : ident? rest = some (name, after)) (ends : ∃ c ∈ after.head?, isBreak c = true) :
    Framed name text := by
  obtain ⟨d, next, isBreak⟩ := ends
  obtain ⟨back, rfl⟩ := List.head?_eq_some_iff.1 next
  cases rest with
  | nil => cases read
  | cons c rest =>
    rw [ident?] at read
    split at read
    case isFalse => cases read
    case isTrue start =>
      obtain ⟨rfl, left⟩ := Prod.mk.inj (Option.some.inj read)
      refine ⟨by simp, ?_, d, back, isBreak, ?_⟩
      · intro e member
        rcases List.mem_cons.1 member with rfl | member
        · exact isIdentPart_of_isIdentStart start
        · exact List.mem_takeWhile_imp member
      · rwa [← left, List.cons_append, List.takeWhile_append_dropWhile]

theorem exists_break_of_trimStart {sign : Char} (isSign : isBreak sign = true)
    (next : trimStart text = sign :: rest) : ∃ c ∈ text.head?, isBreak c = true := by
  cases text with
  | nil => cases next
  | cons c text =>
    refine ⟨c, rfl, ?_⟩
    cases blank : isBlank c with
    | true => exact isBreak_of_isBlank blank
    | false =>
      rw [trimStart_cons_of_not_blank blank] at next
      cases next
      exact isSign

theorem Framed.mentions {body : List Char} (framed : Framed name text) (begins : text <+: body) :
    mentions body name = true := by
  obtain ⟨nonempty, parts, d, back, isBreak_d, c, isBreak_c, front, rfl⟩ := framed
  obtain ⟨more, rfl⟩ := begins
  rw [isBreak, Bool.and_eq_true, Bool.not_eq_true', Bool.not_eq_true'] at isBreak_c isBreak_d
  have last : (front ++ [c]).getLast? = some c := List.getLast?_concat
  -- the name does not hold the break before it, so the search does not pass over it
  have apart : ∀ e ∈ (front ++ [c]).getLast?, e ∉ name := by
    intro e member inside
    cases Option.mem_some.1 (last ▸ member)
    rw [parts c inside] at isBreak_c
    cases isBreak_c.2
  have found : ⟨(front ++ [c]).getLast?, d :: (back ++ more)⟩ ∈
      occurrences name (front ++ [c] ++ (name ++ d :: (back ++ more))) :=
    mem_occurrences_of_apart nonempty apart
  rw [Source.mentions, List.any_eq_true]
  refine ⟨⟨some c, d :: (back ++ more)⟩, by simpa using found, ?_⟩
  simp [Occurrence.isWhole, isBreak_c.1, isBreak_d.1]

end FrontendAtlas.Source

namespace FrontendAtlas.Declaration

open FrontendAtlas.Text FrontendAtlas.Source

section Capture

variable {text rest name : List Char}

theorem framed_of_calledName? (apart : Separated rest text) (read : calledName? rest = some name) :
    Framed name text := by
  simp only [calledName?, Option.bind_eq_bind, Option.bind_eq_some_iff, Option.pure_def, Option.some.injEq,
    Prod.exists, char?_eq_some_iff] at read
  obtain ⟨name, after, named, opened, opens, rfl⟩ := read
  exact apart.framed named (exists_break_of_trimStart (by decide) opens)

theorem framed_of_awaitedName? (apart : Separated rest text) (read : awaitedName? rest = some name) :
    Framed name text := by
  simp only [awaitedName?, Option.orElse_eq_orElse, Option.orElse_eq_or, Option.or_eq_some_iff,
    Option.bind_eq_some_iff] at read
  rcases read with ⟨after, awaited, called⟩ | ⟨-, called⟩
  · exact framed_of_calledName? ((separated_of_keyword? awaited).of_suffix apart.suffix) called
  · exact framed_of_calledName? apart called

theorem framed_of_lambdaTarget? (apart : Separated rest text) (read : lambdaTarget? rest = some name) :
    Framed name text := by
  unfold lambdaTarget? at read
  split at read
  case h_1 _ block =>
    have opened : Separated (trimStart block) text := Separated.trimStart ⟨'{', by decide, apart.suffix⟩
    simp only [Option.orElse_eq_orElse, Option.orElse_eq_or, Option.or_eq_some_iff,
      Option.bind_eq_some_iff] at read
    rcases read with ⟨after, returned, awaited⟩ | ⟨-, awaited⟩
    · exact framed_of_awaitedName? ((separated_of_keyword? returned).of_suffix opened.suffix) awaited
    · exact framed_of_awaitedName? opened awaited
  case h_2 => exact framed_of_awaitedName? apart read

theorem separated_of_lambdaBody? (read : lambdaBody? text = some rest) : Separated rest text := by
  -- however the parameters are written, the body stands behind an arrow
  have arrow {after : List Char} (inside : after <:+ text)
      (read : (word? "=>" (trimStart after)).bind (fun body => some (trimStart body)) = some rest) :
      Separated rest text := by
    obtain ⟨body, pointed, same⟩ := Option.bind_eq_some_iff.1 read
    cases same
    have stands : '>' :: body <:+ trimStart after := ⟨['='], (after?_eq_some_iff.1 pointed).symm⟩
    exact Separated.trimStart ⟨'>', by decide, stands.trans ((trimStart_suffix after).trans inside)⟩
  unfold lambdaBody? at read
  simp only [Option.bind_eq_bind, Option.pure_def] at read
  split at read
  case h_1 _ parameters =>
    split at read
    case h_1 after closed =>
      have closes : ')' :: after <:+ parameters := closed ▸ List.dropWhile_suffix _
      exact arrow ((List.suffix_cons _ _).trans (closes.trans (List.suffix_cons _ _))) read
    case h_2 => cases read
  case h_2 =>
    obtain ⟨after, parameter, read⟩ := Option.bind_eq_some_iff.1 read
    obtain ⟨⟨name, after⟩, named, rfl⟩ := Option.map_eq_some_iff.1 parameter
    exact arrow (suffix_of_ident? named) read

theorem separated_of_fieldValue? {names : List String} (read : fieldValue? names text = some rest) :
    Separated rest text := by
  obtain ⟨⟨field, value⟩, found, rfl⟩ := Option.map_eq_some_iff.1 read
  obtain ⟨field, -, found⟩ := List.exists_of_findSome?_eq_some found
  simp only [Option.bind_eq_bind, Option.bind_eq_some_iff, Option.pure_def, Option.some.injEq,
    Prod.mk.injEq, Option.map_eq_some_iff, char?_eq_some_iff] at found
  obtain ⟨after, named, _, ⟨value, colon, rfl⟩, -, rfl⟩ := found
  have opens : ':' :: value <:+ after := colon ▸ trimStart_suffix after
  exact Separated.trimStart ⟨':', by decide, opens.trans (suffix_of_word? named)⟩

theorem framed_of_lambdaBinding {before : Option Char} (fits : lambdaBinding before text = some (name, rest)) :
    Framed name text := by
  rw [lambdaBinding, atWordStart] at fits
  split at fits
  · cases fits
  simp only [Option.orElse_eq_orElse, Option.orElse_eq_or, Option.bind_eq_bind, Option.bind_eq_some_iff,
    Option.or_eq_some_iff, Option.pure_def, Option.some.injEq, Prod.mk.injEq] at fits
  obtain ⟨value, field, _, ⟨_, ⟨after, async, body⟩, target⟩ | ⟨-, _, body, target⟩, rfl, -⟩ := fits
  · have inside : trimStart after <:+ text :=
      (trimStart_suffix after).trans <| (suffix_of_word? async).trans (suffix_of_fieldValue? field)
    exact framed_of_lambdaTarget? ((separated_of_lambdaBody? body).of_suffix inside) target
  · exact framed_of_lambdaTarget? ((separated_of_lambdaBody? body).of_suffix (suffix_of_fieldValue? field)) target

theorem framed_of_bareBinding {before : Option Char} (fits : bareBinding before text = some (name, rest)) :
    Framed name text := by
  rw [bareBinding, atWordStart] at fits
  split at fits
  · cases fits
  rw [Option.bind_eq_bind, Option.bind_eq_some_iff] at fits
  obtain ⟨value, field, fits⟩ := fits
  rw [Option.bind_eq_bind, Option.bind_eq_some_iff] at fits
  obtain ⟨⟨bound, after⟩, named, fits⟩ := fits
  have framed (ends : ∃ c ∈ after.head?, isBreak c = true) : Framed bound text :=
    (separated_of_fieldValue? field).framed named ends
  dsimp only at fits
  split at fits
  case isTrue line =>
    cases fits
    apply framed
    cases after with
    | nil => cases line
    | cons c after =>
      refine ⟨c, rfl, ?_⟩
      cases blank : isBlank c with
      | true => exact isBreak_of_isBlank blank
      | false => simp [blank] at line
  case isFalse =>
    split at fits
    case h_1 next =>
      cases fits
      exact framed (exists_break_of_trimStart (by decide) next)
    case h_2 next =>
      cases fits
      exact framed (exists_break_of_trimStart (by decide) next)
    case h_3 => cases fits

theorem framed_of_firstHit? {pattern : Pattern (List Char)}
    (captures : ∀ {before text name rest}, pattern before text = some (name, rest) → Framed name text)
    (found : firstHit? pattern text = some name) : Framed name text := by
  obtain ⟨hit, first, rfl⟩ := Option.map_eq_some_iff.1 found
  obtain ⟨front, back, rfl, -, fits⟩ := fits_of_mem_hitsFrom (List.mem_of_mem_head? first)
  obtain ⟨nonempty, parts, c, more, isBreak, stands⟩ := captures fits
  exact ⟨nonempty, parts, c, more, isBreak, stands.of_suffix (List.suffix_append front back)⟩

theorem framed_of_binding? {target : String} (bound : binding? text = some target) :
    Framed target.toList text := by
  simp only [binding?, Option.orElse_eq_orElse, Option.orElse_eq_or, Option.map_eq_some_iff,
    Option.or_eq_some_iff] at bound
  obtain ⟨name, found | ⟨-, found⟩, rfl⟩ := bound
  · rw [String.toList_ofList]
    exact framed_of_firstHit? framed_of_lambdaBinding found
  · rw [String.toList_ofList]
    exact framed_of_firstHit? framed_of_bareBinding found

end Capture

theorem HookDeclaration.binding_mem_dependencies_iff {declaration : HookDeclaration} {path target : String}
    {apis known : NameSet} (bound : (declaration.hook path apis known).binding = some target) :
    target ∈ (declaration.hook path apis known).dependencies.names ↔
      (target ∈ apis.names ∨ target ∈ known.names) ∧ target ≠ declaration.name := by
  have mentioned : mentions declaration.body target.toList = true :=
    (framed_of_binding? bound).mentions (List.take_prefix hookWindow declaration.body)
  simp [HookDeclaration.hook, NameSet.mem_filter, NameSet.mem_union, mentioned]

end FrontendAtlas.Declaration

namespace FrontendAtlas.Project

theorem binding_mem_dependencies_of_hooksOf {apis : NameSet} {sources : List Source} {name target : String}
    {hook : Hook} (found : (hooksOf apis sources).get? name = some hook) (bound : hook.binding = some target) :
    target ∈ hook.dependencies.names ↔
      (target ∈ apis.names ∨ target ∈ (hookNamesOf sources).names) ∧ target ≠ name := by
  simp only [hooksOf, get?_mergeAll] at found
  obtain ⟨dict, listed, found⟩ := List.exists_of_findSome?_eq_some found
  obtain ⟨source, -, rfl⟩ := List.mem_map.1 listed
  obtain ⟨declaration, -, rfl, rfl⟩ := Declaration.exists_declaration_of_get?_hooks found
  exact declaration.binding_mem_dependencies_iff bound

theorem edges_of_graph {space : Workspace} {settings : GeneratorSettings} {now : String} {graph : Graph}
    (built : Project.graph space settings now = .ok graph) : graph.edges = graph.nodes.edges := by
  rw [Project.graph, nodes_of_graph built] at built
  calc graph.edges
    _ = (Graph.ofNodes graph.nodes now).edges := congrArg Graph.edges (Except.ok.inj built).symm
    _ = graph.nodes.edges := rfl

/-- A hook depends on the function it is bound to if that is known and has another name; in a generated graph
the function of a binding edge is known, so its name is listed unless it is that of the hook. -/
theorem bindings_among_dependencies :
    (∀ source path apis known name hook target,
      (Declaration.hooks source path apis known).get? name = some hook → hook.binding = some target →
      (target ∈ hook.dependencies.names ↔
        (target ∈ apis.names ∨ target ∈ known.names) ∧ target ≠ hook.name)) ∧
    ∀ space settings now graph, Project.graph space settings now = .ok graph →
      ∀ edge ∈ graph.edges, edge.kind = .binding →
      ∃ hook, graph.nodes.hooks.get? edge.source = some hook ∧ hook.binding = some edge.target ∧
        (edge.target ∈ hook.dependencies.names ↔ edge.target ≠ edge.source) := by
  constructor
  · intro source path apis known name hook target found bound
    obtain ⟨declaration, -, -, rfl⟩ := Declaration.exists_declaration_of_get?_hooks found
    exact declaration.binding_mem_dependencies_iff bound
  · intro space settings now graph built edge listed kind
    rw [edges_of_graph built, Nodes.mem_edges_iff] at listed
    cases listed with
    | dependency => cases kind
    | use => cases kind
    | @binding name hook target found bound known =>
      refine ⟨hook, found, bound, ?_⟩
      -- the hooks were looked through for the names of these API functions
      rw [(hooks_of_nodes (nodes_of_graph built)).1] at found
      have api : target ∈ (NameSet.ofList graph.nodes.apis.keys).names := by
        rwa [NameSet.mem_ofList, Dict.mem_keys_iff]
      rw [binding_mem_dependencies_of_hooksOf found bound]
      simp [api]

def servedSpace (hooks : String) : Workspace where
  tree := ⟨[(["api"], .directory),
    (["api", "a.ts"], .file (.text "export async function useA(): Promise<A> \x7b return get('/a'); \x7d\n")),
    (["h"], .directory), (["h", "useA.ts"], .file (.text hooks)),
    (["t.ts"], .file (.text "export type A = string;\n"))], by simp; decide⟩
  directory := []

def servedSettings : GeneratorSettings :=
  { sourceRoot := "", typesPath := "t.ts", apiDir := "api", hooksDir := "h" }

def callingHook : String :=
  "export const useB = () => useQuery(\x7b queryFn: async () => \x7b await useA() \x7d \x7d);\n"

def ownHook : String := "export const useA = () => useQuery(\x7b queryFn: useA \x7d);\n"

theorem exists_served_graph (hooks : String) :
    ∃ graph, Project.graph (servedSpace hooks) servedSettings "" = .ok graph :=
  exists_graph "" rfl

theorem bindings_among_dependencies_served :
    (∃ hook, (Declaration.hooks callingHook.toList "h/useA.ts" (.ofList ["useA"])
        (.ofList ["useB"])).get? "useB" = some hook ∧
      hook.binding = some "useA" ∧ "useA" ∈ hook.dependencies.names) ∧
    ∃ graph hook, Project.graph (servedSpace callingHook) servedSettings "" = .ok graph ∧
      ⟨"useB", "useA", .binding⟩ ∈ graph.edges ∧ graph.nodes.hooks.get? "useB" = some hook ∧
      "useA" ∈ hook.dependencies.names := by
  constructor
  · have read : ∃ hook ∈ (Declaration.hooks callingHook.toList "h/useA.ts" (.ofList ["useA"])
        (.ofList ["useB"])).get? "useB", hook.binding = some "useA" ∧ hook.name = "useB" := by
      decide +kernel
    obtain ⟨hook, found, bound, named⟩ := read
    have listed := (bindings_among_dependencies.1 _ _ _ _ _ hook _ found bound).2
    exact ⟨hook, found, bound, listed ⟨.inl (by simp [NameSet.mem_ofList]), by simp [named]⟩⟩
  · have runs : (Project.graph (servedSpace callingHook) servedSettings "").toOption.any
        (fun graph => decide (⟨"useB", "useA", .binding⟩ ∈ graph.edges)) = true := by
      decide +kernel
    obtain ⟨graph, built⟩ := exists_served_graph callingHook
    rw [built] at runs
    have listed : ⟨"useB", "useA", .binding⟩ ∈ graph.edges := of_decide_eq_true runs
    obtain ⟨hook, found, -, depends⟩ := bindings_among_dependencies.2 _ _ _ graph built _ listed rfl
    exact ⟨graph, hook, built, listed, found, depends.2 (by decide)⟩

theorem own_binding_not_among_dependencies :
    ∃ graph hook, Project.graph (servedSpace ownHook) servedSettings "" = .ok graph ∧
      ⟨"useA", "useA", .binding⟩ ∈ graph.edges ∧ graph.nodes.hooks.get? "useA" = some hook ∧
      "useA" ∉ hook.dependencies.names := by
  have runs : (Project.graph (servedSpace ownHook) servedSettings "").toOption.any
      (fun graph => decide (⟨"useA", "useA", .binding⟩ ∈ graph.edges ∧
        ∃ hook ∈ graph.nodes.hooks.get? "useA", "useA" ∉ hook.dependencies.names)) = true := by
    decide +kernel
  obtain ⟨graph, built⟩ := exists_served_graph ownHook
  rw [built] at runs
  obtain ⟨listed, hook, found, unlisted⟩ := of_decide_eq_true runs
  exact ⟨graph, hook, built, listed, found, unlisted⟩

end FrontendAtlas.Project

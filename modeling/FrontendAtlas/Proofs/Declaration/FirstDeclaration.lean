import FrontendAtlas.Proofs.Declaration.ApiExtraction
import FrontendAtlas.Proofs.Declaration.HookExtraction

namespace FrontendAtlas

def First {κ α : Type} [LT κ] (yields : κ → α → Prop) (value : α) : Prop :=
  ∃ place, yields place value ∧ ∀ other value', yields other value' → ¬ other < place

section First

variable {κ α β : Type} [LT κ]

theorem First.congr {yields others : κ → α → Prop}
    (same : ∀ place value, yields place value ↔ others place value) {value : α} :
    First yields value ↔ First others value := by
  rw [funext fun place => funext fun value => propext (same place value)]

theorem findSome?_eq_some_iff_first [Std.Asymm fun a b : κ => a < b] {items : List β} {place : β → κ}
    (sorted : items.Pairwise fun a b => place a < place b) {f : β → Option α} {value : α} :
    items.findSome? f = some value ↔
      First (fun here value => ∃ item ∈ items, place item = here ∧ f item = some value) value := by
  -- Whatever yields something is the item found or comes after it.
  have earliest {value : α} (found : items.findSome? f = some value) : ∃ item ∈ items, f item = some value ∧
      ∀ other ∈ items, ∀ value', f other = some value' → other = item ∨ place item < place other := by
    obtain ⟨front, item, back, rfl, yields, nothing⟩ := List.findSome?_eq_some_iff.1 found
    refine ⟨item, by simp, yields, fun other listed value' yields' => ?_⟩
    rcases List.mem_append.1 listed with front | back
    · rw [nothing other front] at yields'
      cases yields'
    · rcases List.mem_cons.1 back with rfl | back
      · exact .inl rfl
      · exact .inr ((List.pairwise_cons.1 (List.pairwise_append.1 sorted).2.1).1 other back)
  constructor
  · intro found
    obtain ⟨item, listed, yields, after⟩ := earliest found
    refine ⟨place item, ⟨item, listed, rfl, yields⟩, ?_⟩
    rintro _ value' ⟨other, listed', rfl, yields'⟩ earlier
    rcases after other listed' value' yields' with rfl | later
    · exact Std.Asymm.asymm _ _ earlier earlier
    · exact Std.Asymm.asymm _ _ earlier later
  · rintro ⟨_, ⟨item, listed, rfl, yields⟩, least⟩
    cases found : items.findSome? f with
    | none =>
      rw [List.findSome?_eq_none_iff.1 found item listed] at yields
      cases yields
    | some value' =>
      obtain ⟨other, listed', yields', after⟩ := earliest found
      rcases after item listed value yields with rfl | later
      · rw [← yields, yields']
      · exact absurd later (least _ value' ⟨other, listed', rfl, yields'⟩)

theorem Dict.get?_ofListFirst_filterMap (items : List β) (read : β → Option (String × α)) (name : String) :
    (Dict.ofListFirst (items.filterMap read)).get? name =
      items.findSome? fun item => ((read item).filter (·.1 == name)).map (·.2) := by
  rw [Dict.get?_ofListFirst, List.lookup_eq_findSome?, ← List.head?_filterMap, List.filterMap_filterMap,
    List.head?_filterMap]
  congr 1
  funext item
  cases read item with
  | none => rfl
  | some entry =>
    rw [Option.bind_some, Option.filter_some, BEq.comm]
    split <;> rfl

theorem Dict.get?_ofListFirst_eq_some_iff [Std.Asymm fun a b : κ => a < b] {items : List β} {place : β → κ}
    (sorted : items.Pairwise fun a b => place a < place b) {read : β → Option (String × α)} {name : String}
    {value : α} : (Dict.ofListFirst (items.filterMap read)).get? name = some value ↔
      First (fun here value => ∃ item ∈ items, place item = here ∧ read item = some (name, value)) value := by
  have reads (item : β) (value : α) :
      ((read item).filter (·.1 == name)).map (·.2) = some value ↔ read item = some (name, value) := by
    cases read item with
    | none => simp
    | some entry => simp [Prod.ext_iff, Option.filter_some]
  rw [get?_ofListFirst_filterMap, findSome?_eq_some_iff_first sorted]
  simp only [reads]

end First

namespace Declaration

open FrontendAtlas.Source

def FirstRead {α β : Type} (declared : List (Hit α)) (read : Hit α → Option (String × β)) (name : String)
    (value : β) : Prop :=
  First (fun position value => ∃ hit ∈ declared, hit.position = position ∧ read hit = some (name, value)) value

variable {source : List Char} {path name : String}

def readType (path : String) (hit : Hit (TypeKind × List Char)) : String × TypeDeclaration :=
  (String.ofList hit.value.2, ⟨String.ofList hit.value.2, hit.value.1,
    if hit.value.1 = .interface then interfaceProperties hit.rest else ∅, path⟩)

theorem get?_types_eq_some_iff {node : TypeDeclaration} : (types source path).get? name = some node ↔
    FirstRead (hits typeHead (stripComments source)) (fun hit => some (readType path hit)) name node := by
  rw [types, ← List.filterMap_eq_map]
  exact Dict.get?_ofListFirst_eq_some_iff (pairwise_hits _ _)

theorem get?_apiFunctions_eq_some_iff {node : ApiFunction} :
    (apiFunctions source path).get? name = some node ↔
      FirstRead (hits asyncFunction (stripComments source)) (readApi? path) name node ∨
      (∀ hit ∈ hits asyncFunction (stripComments source), ∀ node, readApi? path hit ≠ some (name, node)) ∧
        FirstRead (hits asyncArrow (stripComments source)) (readApi? path) name node := by
  have first (pattern : Pattern (List Char)) :
      ((hits pattern (stripComments source)).filterMap (readApi? path)).lookup name = some node ↔
        FirstRead (hits pattern (stripComments source)) (readApi? path) name node := by
    rw [← Dict.get?_ofListFirst]
    exact Dict.get?_ofListFirst_eq_some_iff (pairwise_hits _ _)
  have absent : ((hits asyncFunction (stripComments source)).filterMap (readApi? path)).lookup name = none ↔
      ∀ hit ∈ hits asyncFunction (stripComments source), ∀ node, readApi? path hit ≠ some (name, node) := by
    simp only [List.lookup_eq_none_iff, List.mem_filterMap, Prod.forall]
    constructor
    · intro others hit found node read
      simpa using others name node ⟨hit, found, read⟩
    · rintro others other node ⟨hit, found, read⟩
      rw [bne_iff_ne]
      rintro rfl
      exact others hit found node read
  have split : apiFunctions source path = Dict.ofListFirst ((hits asyncFunction (stripComments source) ++
      hits asyncArrow (stripComments source)).filterMap (readApi? path)) := rfl
  rw [split, Dict.get?_ofListFirst, List.filterMap_append, List.lookup_append, Option.or_eq_some_iff, first, absent,
    first]

theorem exportedHook_disjoint (text : List Char) (function : (exportedHookFunction? text).isSome = true) :
    exportedHookConstant? text = none := by
  cases exported : keyword? "export" text with
  | none => simp [exportedHookConstant?, exported]
  | some rest =>
    cases constant : keyword? "const" rest with
    | none => simp [exportedHookConstant?, exported, constant]
    | some value =>
      have lead : "const".toList <+: rest := by
        by_contra missing
        rw [keyword?_eq_none missing] at constant
        cases constant
      obtain ⟨more, rfl⟩ := lead
      have plain : skipKeyword "default" ("const".toList ++ more) = "const".toList ++ more := by
        rw [skipKeyword, keyword?_eq_none (by simp)]
        rfl
      have other : keyword? "function" ("const".toList ++ more) = none := keyword?_eq_none (by simp)
      simp only [exportedHookFunction?, exported, Option.bind_eq_bind, Option.bind_some, plain, other,
        Option.bind_none] at function
      cases function

def placedHooks (text : List Char) : List (Nat × HookDeclaration) :=
  ((hits hookFunction text ++ hits hookConstant text).filterMap fun hit =>
    (readHook? hit).map fun declaration => (hit.position, declaration)).mergeSort fun a b => a.1 ≤ b.1

theorem hookDeclarations_eq (text : List Char) : hookDeclarations text = (placedHooks text).map (·.2) := by
  simp only [hookDeclarations, placedHooks, readHook?, Option.map_map]
  rfl

theorem mem_placedHooks_iff {text : List Char} {position : Nat} {declaration : HookDeclaration} :
    (position, declaration) ∈ placedHooks text ↔
      ∃ hit ∈ hits hookFunction text ++ hits hookConstant text,
        readHook? hit = some declaration ∧ hit.position = position := by
  simp only [placedHooks, List.mem_mergeSort, List.mem_filterMap, Option.map_eq_some_iff, Prod.mk.injEq]
  constructor
  · rintro ⟨hit, found, _, read, place, rfl⟩
    exact ⟨hit, found, read, place⟩
  · rintro ⟨hit, found, read, place⟩
    exact ⟨hit, found, declaration, read, place, rfl⟩

theorem pairwise_placedHooks (text : List Char) : (placedHooks text).Pairwise fun a b => a.1 < b.1 := by
  have apart : (hits hookFunction text ++ hits hookConstant text).Pairwise fun a b => a.position ≠ b.position :=
    List.pairwise_append.2 ⟨(pairwise_hits _ _).imp Nat.ne_of_lt, (pairwise_hits _ _).imp Nat.ne_of_lt,
      fun _ found _ found' => position_ne_of_disjoint exportedHook_disjoint found found'⟩
  have distinct : (placedHooks text).Pairwise fun a b => a.1 ≠ b.1 := by
    rw [placedHooks, (List.mergeSort_perm _ _).pairwise_iff Ne.symm, List.pairwise_filterMap]
    apply apart.imp
    intro hit other differ a read b read'
    obtain ⟨_, -, rfl⟩ := Option.map_eq_some_iff.1 read
    obtain ⟨_, -, rfl⟩ := Option.map_eq_some_iff.1 read'
    exact differ
  have sorted : (placedHooks text).Pairwise fun a b => a.1 ≤ b.1 := by
    apply (List.pairwise_mergeSort _ _ _).imp
    · simp
    · simp only [decide_eq_true_eq]
      exact fun _ _ _ => Nat.le_trans
    · simp only [Bool.or_eq_true, decide_eq_true_eq]
      exact fun _ _ => Nat.le_total _ _
  exact (sorted.and distinct).imp fun h => Nat.lt_of_le_of_ne h.1 h.2

def readHookNode? (path : String) (apis names : NameSet) (hit : Hit (List Char)) : Option (String × Hook) :=
  (readHook? hit).map fun declaration => (declaration.name, declaration.hook path apis names)

theorem readHookNode?_eq_some_iff {apis names : NameSet} {hit : Hit (List Char)} {node : Hook} :
    readHookNode? path apis names hit = some (name, node) ↔
      ∃ declaration, readHook? hit = some declaration ∧ declaration.name = name ∧
        declaration.hook path apis names = node := by
  simp [readHookNode?]

theorem get?_hooks_eq_some_iff {apis names : NameSet} {node : Hook} :
    (hooks source path apis names).get? name = some node ↔
      FirstRead (hits hookFunction (stripComments source) ++ hits hookConstant (stripComments source))
        (readHookNode? path apis names) name node := by
  rw [hooks, hookDeclarations_eq, List.map_map, ← List.filterMap_eq_map,
    Dict.get?_ofListFirst_eq_some_iff (pairwise_placedHooks _)]
  apply First.congr
  intro position node
  simp only [readHookNode?_eq_some_iff]
  constructor
  · rintro ⟨⟨_, declaration⟩, listed, rfl, read⟩
    obtain ⟨hit, found, read', place⟩ := mem_placedHooks_iff.1 listed
    cases read
    exact ⟨hit, found, place, declaration, read', rfl, rfl⟩
  · rintro ⟨hit, found, rfl, declaration, read, rfl, rfl⟩
    exact ⟨(hit.position, declaration), mem_placedHooks_iff.2 ⟨hit, found, read, rfl⟩, rfl, rfl⟩

end Declaration

end FrontendAtlas

import FrontendAtlas.Declaration.Component
import FrontendAtlas.Proofs.Source.LiteralContents
import FrontendAtlas.Proofs.Source.Stretch

namespace FrontendAtlas.Declaration

open FrontendAtlas.Text FrontendAtlas.Source

section Quote

variable {quote : Char} (quoted : quote = '\x27' ∨ quote = '\x22') {text : List Char} (more : List Char)
include quoted

theorem visible_quote : isBlank quote = false := by
  rcases quoted with rfl | rfl <;> decide

theorem ne_of_quoted {c : Char} (plain : c ∉ ['\x27', '\x22']) : quote ≠ c := by
  simp only [List.mem_cons, List.not_mem_nil, or_false, not_or] at plain
  rcases quoted with rfl | rfl
  · exact Ne.symm plain.1
  · exact Ne.symm plain.2

theorem notMem_of_quoted {word : String} (plain : '\x27' ∉ word.toList ∧ '\x22' ∉ word.toList) :
    quote ∉ word.toList := by
  rcases quoted with rfl | rfl
  · exact plain.1
  · exact plain.2

theorem readsApart_exportHead (text : List Char) : ReadsApart exportHead text (quote :: more) := by
  intro before
  rw [exportHead, atLineStart, atLineStart]
  split
  case isFalse => rfl
  case isTrue =>
    have visible := visible_quote quoted
    rw [dropWhile_append_mark (by rcases quoted with rfl | rfl <;> decide),
      keyword?_append_mark visible (notMem_of_quoted quoted (by decide))]
    cases keyword? "export" _ with
    | none => rfl
    | some rest =>
      simp only [Option.map_some, Option.bind_eq_bind, Option.bind_some]
      rw [skipKeyword_append_mark visible (notMem_of_quoted quoted (by decide)),
        oneOf?_append_mark (by rcases quoted with rfl | rfl <;> decide)
          fun word _ text _ => gap?_append_mark visible more]
      cases oneOf? _ gap? _ with
      | none => rfl
      | some found =>
        simp only [Option.map_some, Option.bind_some]
        rw [ident?_append_mark (by rcases quoted with rfl | rfl <;> decide)]
        cases ident? found.2 <;> rfl

theorem exportHead_quote (before : Option Char) : exportHead before (quote :: more) = none := by
  have nothing : exportHead before [] = none := by
    rw [exportHead, atLineStart]
    split <;> rfl
  exact (readsApart_exportHead quoted more []).refused nothing

theorem values_exportHead (text : List Char) : values exportHead (text ++ quote :: more) =
    values exportHead text ++ values exportHead (quote :: more) := by
  apply values_append_mark
  · intro before
    rw [exportHead_quote quoted, exportHead_quote quoted]
  · intro rest _ _
    exact readsApart_exportHead quoted more rest

theorem values_exportHead_contents {contents : List Char} (plain : PlainContents quote contents) :
    values exportHead (quote :: contents) = [] := by
  have inside : quote ≠ '\n' := ne_of_quoted quoted (by decide)
  rw [values, valuesFrom_cons, exportHead_quote quoted]
  obtain ⟨last, -, search⟩ := hitsFrom_line contents [] 0 inside plain.line
  rw [List.append_nil] at search
  exact congrArg (List.map (·.value)) search

theorem values_exportHead_literal {contents : List Char} (plain : PlainContents quote contents)
    (front back : List Char) : values exportHead (front ++ quote :: (contents ++ quote :: back)) =
      values exportHead front ++ values exportHead (quote :: back) := by
  rw [values_exportHead quoted, ← List.cons_append, values_exportHead quoted,
    values_exportHead_contents quoted plain, List.nil_append]

end Quote

theorem isSome_componentName? (text : List Char) (file : String) :
    (componentName? text file).isSome =
      (((values exportHead text).any fun found => isComponentName found.2) ||
        ((Path.fileStem? file).filter fun stem => isComponentName stem.toList).isSome) := by
  have exported (named : List (Hit (String × List Char))) (certain : Hit (String × List Char) → Bool) :
      ((named.find? certain).isSome || named.head?.isSome) = named.head?.isSome := by
    cases named with
    | nil => rfl
    | cons hit named => exact Bool.or_true _
  rw [componentName?, values, valuesFrom, List.any_map, ← hits]
  simp only [Option.orElse_eq_orElse, Option.orElse_eq_or, Option.isSome_or, Option.isSome_map]
  rw [exported, List.head?_filter, List.isSome_find?]
  rfl

section Literal

variable {quote : Char} {front contents other back : List Char}

theorem isSome_componentName?_literal (quoted : quote = '\x27' ∨ quote = '\x22')
    (plain : PlainContents quote contents) (plain' : PlainContents quote other) (file : String) :
    (componentName? (front ++ quote :: (contents ++ quote :: back)) file).isSome =
      (componentName? (front ++ quote :: (other ++ quote :: back)) file).isSome := by
  rw [isSome_componentName?, isSome_componentName?, values_exportHead_literal quoted plain,
    values_exportHead_literal quoted plain']

theorem map_hooks_component? (source : List Char) (file path : String) (known : NameSet) :
    (component? source file path known).map (·.hooks) =
      if (componentName? (stripComments source) file).isSome then
        some (known.filter fun hook => mentions (blankLiterals (stripComments source)) hook.toList)
      else none := by
  rw [component?]
  cases componentName? (stripComments source) file <;> rfl

/-- The contents of a literal decide neither whether a file has a component nor which hooks it uses. -/
theorem hooks_of_swapped_literal (quoted : quote = '\x27' ∨ quote = '\x22')
    (code : StandsInCode front (quote :: (contents ++ quote :: back))) (plain : PlainContents quote contents)
    (plain' : PlainContents quote other) (file path : String) (known : NameSet) :
    (component? (front ++ quote :: (contents ++ quote :: back)) file path known).map (·.hooks) =
      (component? (front ++ quote :: (other ++ quote :: back)) file path known).map (·.hooks) := by
  rw [map_hooks_component?, map_hooks_component?, stripComments_literal quoted code plain,
    stripComments_literal quoted code plain', blankLiterals_literal quoted code plain,
    blankLiterals_literal quoted code plain', isSome_componentName?_literal quoted plain plain']

theorem hooks_of_swapped_literal_import :
    let front := "// it's one\nimport People from ".toList
    let contents := "@/hooks/usePeople".toList
    let other := "@/ui/People".toList
    let back := ";\nexport const Panel = () => useTotal();\n".toList
    let known := NameSet.ofList ["usePeople", "useTotal"]
    let component (literal : List Char) :=
      component? (front ++ '\x27' :: (literal ++ '\x27' :: back)) "ui/Panel.tsx" "ui/Panel.tsx" known
    StandsInCode front ('\x27' :: (contents ++ '\x27' :: back)) ∧ PlainContents '\x27' contents ∧
      PlainContents '\x27' other ∧ (component contents).map (·.hooks) = (component other).map (·.hooks) ∧
      (component contents).map (·.hooks.names) = some ["useTotal"] := by
  intro front contents other back known component
  have code : StandsInCode front ('\x27' :: (contents ++ '\x27' :: back)) := ⟨30, _, rfl⟩
  have plain : PlainContents '\x27' contents := ⟨by decide, by decide, by decide⟩
  have plain' : PlainContents '\x27' other := ⟨by decide, by decide, by decide⟩
  have same := hooks_of_swapped_literal (.inl rfl) code plain plain' "ui/Panel.tsx" "ui/Panel.tsx" known
  exact ⟨code, plain, plain', same, by decide +kernel⟩

end Literal

end FrontendAtlas.Declaration

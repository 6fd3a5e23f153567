import FrontendAtlas.Declaration.ApiFunction
import FrontendAtlas.Declaration.Component
import FrontendAtlas.Declaration.Hook
import FrontendAtlas.Declaration.TypeDeclaration
import FrontendAtlas.Proofs.Source.CommentPass

namespace FrontendAtlas.Declaration

open FrontendAtlas.Source

/-- Texts that differ in the inside of one comment declare the same types, API functions, hooks and
component. -/
theorem declarations_of_swapped_comment {front x y back : List Char}
    (code : StandsInCode front (x ++ back)) (same : SameComment x y) :
    let source := front ++ x ++ back
    let changed := front ++ y ++ back
    stripComments source = stripComments changed ∧
      (∀ path, types source path = types changed path) ∧
      (∀ path, apiFunctions source path = apiFunctions changed path) ∧
      hookNames source = hookNames changed ∧
      (∀ path apis known, hooks source path apis known = hooks changed path apis known) ∧
      ∀ file path known, component? source file path known = component? changed file path known := by
  intro source changed
  have stripped : stripComments source = stripComments changed := stripComments_swap code same
  refine ⟨stripped, ?_, ?_, ?_, ?_, ?_⟩
  · intro path
    rw [types, types, stripped]
  · intro path
    rw [apiFunctions, apiFunctions, stripped]
  · rw [hookNames, hookNames, stripped]
  · intro path apis known
    rw [hooks, hooks, stripped]
  · intro file path known
    rw [component?, component?, stripped]

theorem declarations_of_swapped_comment_fake :
    let front := "const hint = '/* no \\' //'; ".toList
    let fake := "/* export interface Fake \x7b id: string; \x7d ' // */".toList
    let back := "\nexport interface Real \x7b id: string; \x7d\n".toList
    StandsInCode front (fake ++ back) ∧ SameComment fake "/**/".toList ∧
      stripComments (front ++ fake ++ back) = stripComments (front ++ "/**/".toList ++ back) ∧
      types (front ++ fake ++ back) "types.ts" = types (front ++ "/**/".toList ++ back) "types.ts" ∧
      (types (front ++ fake ++ back) "types.ts").keys = ["Real"] := by
  intro front fake back
  have code : StandsInCode front (fake ++ back) := ⟨27, _, rfl⟩
  have same : SameComment fake "/**/".toList :=
    .block (x := " export interface Fake \x7b id: string; \x7d ' // ".toList) (y := []) (by decide) (by decide)
  have law := declarations_of_swapped_comment code same
  exact ⟨code, same, law.1, law.2.1 "types.ts", by decide +kernel⟩

end FrontendAtlas.Declaration

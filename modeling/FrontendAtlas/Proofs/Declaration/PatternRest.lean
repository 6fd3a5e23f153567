import FrontendAtlas.Declaration.ApiFunction
import FrontendAtlas.Declaration.Component
import FrontendAtlas.Declaration.Hook
import FrontendAtlas.Declaration.TypeDeclaration
import FrontendAtlas.Proofs.Source.Rest

namespace FrontendAtlas.Declaration

open FrontendAtlas.Text FrontendAtlas.Source

theorem suffix_of_typeKind? {text rest : List Char} {kind : TypeKind}
    (read : typeKind? text = some (kind, rest)) :
    rest <:+ text := by
  simp only [typeKind?, Option.orElse_eq_orElse, Option.orElse_eq_or, Option.or_eq_some_iff,
    Option.map_eq_some_iff, Prod.mk.injEq] at read
  rcases read with ⟨_, read, -, rfl⟩ | ⟨-, ⟨_, read, -, rfl⟩ | ⟨-, _, read, -, rfl⟩⟩
  · exact suffix_of_keyword? read
  · exact suffix_of_keyword? read
  · exact (suffix_of_keyword? read).trans (skipKeyword_suffix "const" text)

theorem leaves_exportedType? : Leaves [] exportedType? := by
  intro text value rest read
  simp only [exportedType?, Option.bind_eq_bind, Option.bind_eq_some_iff, Option.pure_def,
    Option.some.injEq, Prod.exists, Prod.mk.injEq] at read
  obtain ⟨a, exported, kind, b, known, name, c, named, -, rfl⟩ := read
  exact (suffix_of_ident? named).trans <| (suffix_of_typeKind? known).trans <|
    (skipKeyword_suffix "declare" a).trans (suffix_of_keyword? exported)

theorem leaves_exportedAsyncFunction? : Leaves ['('] exportedAsyncFunction? := by
  intro text value rest read
  simp only [exportedAsyncFunction?, Option.bind_eq_bind, Option.bind_eq_some_iff, Option.pure_def,
    Option.some.injEq, Prod.exists, Prod.mk.injEq] at read
  obtain ⟨a, exported, b, async, c, function, name, d, named, e, opened, -, rfl⟩ := read
  exact (suffix_of_listOpen? opened).trans <| (suffix_of_ident? named).trans <|
    (suffix_of_keyword? function).trans <|
    (suffix_of_keyword? async).trans (suffix_of_keyword? exported)

theorem leaves_exportedAsyncArrow? : Leaves ['('] exportedAsyncArrow? := by
  intro text value rest read
  simp only [exportedAsyncArrow?, Option.bind_eq_bind, Option.bind_eq_some_iff, Option.pure_def,
    Option.some.injEq, Prod.exists, Prod.mk.injEq, char?_eq_some_iff] at read
  obtain ⟨a, exported, b, const, name, c, named, d, assigned, e, async, f, opened, -, rfl⟩ := read
  have opens : '(' :: f <:+ e := opened ▸ trimStart_suffix e
  exact opens.trans <| (suffix_of_word? async).trans <| (trimStart_suffix d).trans <|
    (suffix_of_assigned? assigned).trans <| (suffix_of_ident? named).trans <|
    (suffix_of_keyword? const).trans (suffix_of_keyword? exported)

theorem suffix_of_hookName? {text name rest : List Char}
    (read : hookName? text = some (name, rest)) : rest <:+ text := by
  obtain ⟨after, found, read⟩ := Option.bind_eq_some_iff.1 read
  refine List.IsSuffix.trans ?_ (suffix_of_word? found)
  cases after with
  | nil => cases read
  | cons c after =>
    dsimp only at read
    split at read
    · cases read
      exact (List.dropWhile_suffix _).trans (List.suffix_cons c after)
    · cases read

theorem leaves_exportedHookFunction? : Leaves ['('] exportedHookFunction? := by
  intro text value rest read
  simp only [exportedHookFunction?, Option.bind_eq_bind, Option.bind_eq_some_iff, Option.pure_def,
    Option.some.injEq, Prod.exists, Prod.mk.injEq] at read
  obtain ⟨a, exported, b, function, name, c, named, d, opened, -, rfl⟩ := read
  exact (suffix_of_listOpen? opened).trans <| (suffix_of_hookName? named).trans <|
    (suffix_of_keyword? function).trans <|
    (skipKeyword_suffix "default" a).trans (suffix_of_keyword? exported)

theorem leaves_exportedHookConstant? : Leaves ['('] exportedHookConstant? := by
  intro text value rest read
  simp only [exportedHookConstant?, Option.bind_eq_bind, Option.bind_eq_some_iff, Option.pure_def,
    Option.some.injEq, Prod.exists, Prod.mk.injEq, char?_eq_some_iff] at read
  obtain ⟨a, exported, b, const, name, c, named, d, assigned, e, opened, -, rfl⟩ := read
  have opens : '(' :: e <:+ trimStart d := by
    rw [← opened]
    cases async : word? "async" (trimStart d) with
    | none => exact List.suffix_refl _
    | some after => exact (trimStart_suffix after).trans (suffix_of_word? async)
  exact opens.trans <| (trimStart_suffix d).trans <| (suffix_of_assigned? assigned).trans <|
    (suffix_of_hookName? named).trans <|
      (suffix_of_keyword? const).trans (suffix_of_keyword? exported)

theorem skipClient_suffix (text : List Char) : skipClient text <:+ text := by
  rw [skipClient]
  cases found : oneOf? clientObjects (char? '.') text with
  | none => exact List.suffix_refl text
  | some read =>
    have dot {text rest : List Char} (read : char? '.' text = some rest) : [] ++ rest <:+ text := by
      rw [char?_eq_some_iff.1 read]
      exact List.suffix_cons '.' rest
    exact suffix_of_oneOf? [] dot found

theorem leaves_helperCall (before : Option Char) : Leaves [] (helperCall before) := by
  apply Leaves.afterBreak
  intro text value rest read
  simp only [Option.bind_eq_bind, Option.bind_eq_some_iff, Option.pure_def, Option.some.injEq,
    Prod.exists, Prod.mk.injEq] at read
  obtain ⟨helper, a, called, method, known, -, rfl⟩ := read
  have opens : ['('] ++ a <:+ skipClient text := suffix_of_oneOf? ['('] suffix_of_listOpen? called
  exact (trimStart_suffix a).trans <| (List.suffix_cons '(' a).trans <|
    opens.trans (skipClient_suffix text)

theorem leaves_templateVariable (before : Option Char) :
    Leaves ['\x60'] (templateVariable before) := by
  apply Leaves.atWordStart
  intro text value rest read
  simp only [Option.bind_eq_bind, Option.bind_eq_some_iff, Option.pure_def, Option.some.injEq,
    Prod.exists, Prod.mk.injEq, char?_eq_some_iff] at read
  obtain ⟨keyword, a, declared, name, b, named, c, equals, d, opened, -, rfl⟩ := read
  have opens : '\x60' :: d <:+ c := opened ▸ trimStart_suffix c
  have assigned : '=' :: c <:+ b := equals ▸ trimStart_suffix b
  exact opens.trans <| (List.suffix_cons '=' c).trans <| assigned.trans <|
    (suffix_of_ident? named).trans (suffix_of_oneOf? [] suffix_of_gap? declared)

theorem suffix_of_fieldValue? {names : List String} {text rest : List Char}
    (read : fieldValue? names text = some rest) :
    rest <:+ text := by
  obtain ⟨⟨name, value⟩, found, rfl⟩ := Option.map_eq_some_iff.1 read
  refine suffix_of_oneOf? [] (fun {text rest} read => ?_) found
  obtain ⟨after, colon, rfl⟩ := Option.map_eq_some_iff.1 read
  have opens : ':' :: after <:+ text := char?_eq_some_iff.1 colon ▸ trimStart_suffix text
  exact (trimStart_suffix after).trans <| (List.suffix_cons ':' after).trans opens

theorem leaves_keyField (before : Option Char) : Leaves ['['] (keyField before) := by
  apply Leaves.atWordStart
  intro text value rest read
  simp only [Option.bind_eq_bind, Option.bind_eq_some_iff, Option.pure_def, Option.some.injEq,
    Prod.mk.injEq, char?_eq_some_iff] at read
  obtain ⟨a, field, b, rfl, -, rfl⟩ := read
  exact suffix_of_fieldValue? field

theorem leaves_exportHead (before : Option Char) : Leaves [] (exportHead before) := by
  apply Leaves.atLineStart
  intro text value rest read
  simp only [Option.bind_eq_bind, Option.bind_eq_some_iff, Option.pure_def, Option.some.injEq,
    Prod.exists, Prod.mk.injEq] at read
  obtain ⟨a, exported, kind, b, known, name, c, named, -, rfl⟩ := read
  exact (suffix_of_ident? named).trans <| (suffix_of_oneOf? [] suffix_of_gap? known).trans <|
    (skipKeyword_suffix "default" a).trans (suffix_of_keyword? exported)

end FrontendAtlas.Declaration

import FrontendAtlas.Proofs.Declaration.HookText
import FrontendAtlas.Proofs.Declaration.InterfaceExtraction
import FrontendAtlas.Proofs.Dict

namespace FrontendAtlas.Declaration

open FrontendAtlas.Text FrontendAtlas.Source

inductive HookForm where
  | function (isDefault : Bool) (block : Enclosed .braces)
  | arrow (block : Enclosed .braces)
  | expression (value : Expression)

namespace HookForm

def isFunction : HookForm → Bool
  | function _ _ => true
  | arrow _ => false
  | expression _ => false

def lead (name : HookName) : HookForm → List Char
  | function isDefault _ => hookFunctionLead name isDefault
  | arrow _ => hookConstantLead name
  | expression _ => hookConstantLead name

def text : HookForm → List Char
  | function _ block => '{' :: (block.text ++ ['}'])
  | arrow block => '=' :: '>' :: ' ' :: '{' :: (block.text ++ ['}'])
  | expression value => '=' :: '>' :: ' ' :: (value.text ++ [';'])

def body : HookForm → List Char
  | function _ block => block.text
  | arrow block => block.text
  | expression value => trim value.text

variable (form : HookForm)

theorem export_prefix_lead (name : HookName) : "export".toList <+: form.lead name := by
  cases form with
  | function isDefault block => cases isDefault <;> exact List.prefix_append _ _
  | arrow block => exact List.prefix_append _ _
  | expression value => exact List.prefix_append _ _

theorem all_isLeadPart_lead (name : HookName) : (form.lead name).all isLeadPart = true := by
  cases form with
  | function isDefault block => exact all_isLeadPart_hookFunctionLead name isDefault
  | arrow block => exact all_isLeadPart_hookConstantLead name
  | expression value => exact all_isLeadPart_hookConstantLead name

theorem lacks_text : Lacks inertWords form.text := by
  have closing : Lacks inertWords [] := by decide
  cases form with
  | function isDefault block =>
    simp (disch := decide) only [text, lacks_append_cons_iff, lacks_cons_iff]
    exact ⟨block.inert, closing⟩
  | arrow block =>
    simp (disch := decide) only [text, lacks_append_cons_iff, lacks_cons_iff]
    exact ⟨block.inert, closing⟩
  | expression value =>
    simp (disch := decide) only [text, lacks_append_cons_iff, lacks_cons_iff]
    exact ⟨value.inert, closing⟩

theorem afterTypes?_text (rest : List Char) :
    afterTypes? false (' ' :: (form.text ++ rest)) = some (form.text ++ rest) := by
  rw [afterTypes?, sectionEnd?_blank (by decide)]
  cases form <;> simp [text, sectionEnd?]

theorem trimStart_text (rest : List Char) :
    trimStart (' ' :: (form.text ++ rest)) = form.text ++ rest := by
  rw [trimStart_cons_of_blank (by decide)]
  cases form <;> exact trimStart_cons_of_not_blank (by decide) _

theorem bodyFrom?_text {gap : List Char} (blank : ∀ c ∈ gap, c = ' ') (rest : List Char) :
    bodyFrom? (gap ++ (form.text ++ rest)) = some form.body := by
  cases form with
  | function isDefault block => simpa [text, body] using bodyFrom?_function block blank rest
  | arrow block => simpa [text, body] using bodyFrom?_arrow block blank rest
  | expression value => simpa [text, body] using bodyFrom?_expression value blank rest

end HookForm

structure WrittenHook where
  name : HookName
  params : Enclosed .parens
  returns : Option ReturnType
  form : HookForm

namespace WrittenHook

variable (hook : WrittenHook)

def tail : List Char :=
  match hook.returns with
  | none => ' ' :: hook.form.text
  | some type => ':' :: ' ' :: (type.text ++ ' ' :: hook.form.text)

theorem lacks_tail : Lacks inertWords hook.tail := by
  rw [tail]
  cases hook.returns with
  | none => exact (lacks_cons_iff (by decide)).2 hook.form.lacks_text
  | some type =>
    simp (disch := decide) only [lacks_append_cons_iff, lacks_cons_iff]
    exact ⟨type.inert, hook.form.lacks_text⟩

def written : ExportText where
  lead := hook.form.lead hook.name
  rest := hook.params.text ++ ')' :: hook.tail
  exported := hook.form.export_prefix_lead hook.name
  plain := hook.form.all_isLeadPart_lead hook.name
  inert := (lacks_append_cons_iff (by decide)).2 ⟨hook.params.inert, hook.lacks_tail⟩

theorem afterAnnotation?_tail (rest : List Char) : ∃ gap, (∀ c ∈ gap, c = ' ') ∧
    afterAnnotation? (hook.tail ++ rest) = some (gap ++ (hook.form.text ++ rest)) := by
  rw [tail]
  cases hook.returns with
  | none =>
    refine ⟨[' '], by simp, ?_⟩
    have bare : ∀ types, hook.form.text ++ rest ≠ ':' :: types := by
      cases hook.form <;> simp [HookForm.text]
    rw [List.cons_append, afterAnnotation?, hook.form.trimStart_text]
    split
    · exact absurd ‹_› (bare _)
    · rfl
  | some type =>
    refine ⟨[], by simp, ?_⟩
    have text : ':' :: ' ' :: (type.text ++ ' ' :: hook.form.text) ++ rest =
        ':' :: ' ' :: (type.text ++ ' ' :: (hook.form.text ++ rest)) := by simp
    rw [text, afterAnnotation?, trimStart_cons_of_not_blank (by decide)]
    calc afterTypes? true (' ' :: (type.text ++ ' ' :: (hook.form.text ++ rest)))
      _ = afterTypes? true (type.text ++ ' ' :: (hook.form.text ++ rest)) := sectionEnd?_blank (by decide)
      _ = afterTypes? false (' ' :: (hook.form.text ++ rest)) := type.afterTypes?_text _
      _ = some (hook.form.text ++ rest) := hook.form.afterTypes?_text rest

theorem hookBody?_rest (more : List Char) :
    hookBody? (hook.written.rest ++ more) = some hook.form.body := by
  have rest : hook.written.rest ++ more = hook.params.text ++ ')' :: (hook.tail ++ more) := by simp [written]
  obtain ⟨gap, blank, after⟩ := hook.afterAnnotation?_tail more
  rw [rest, hookBody?_params, after, Option.bind_some, hook.form.bodyFrom?_text blank]

def isFunction : Bool :=
  hook.form.isFunction

theorem exportedHookFunction?_text (more : List Char) :
    exportedHookFunction? (hook.written.text ++ more) =
      if hook.isFunction then some (hook.name.text, hook.written.rest ++ more) else none := by
  rw [ExportText.text_append]
  obtain ⟨name, params, returns, form⟩ := hook
  cases form with
  | function isDefault block => exact exportedHookFunction?_function _ _ _
  | arrow block => exact exportedHookFunction?_constant _ _
  | expression value => exact exportedHookFunction?_constant _ _

theorem exportedHookConstant?_text (more : List Char) :
    exportedHookConstant? (hook.written.text ++ more) =
      if !hook.isFunction then some (hook.name.text, hook.written.rest ++ more) else none := by
  rw [ExportText.text_append]
  obtain ⟨name, params, returns, form⟩ := hook
  cases form with
  | function isDefault block => exact exportedHookConstant?_function _ _ _
  | arrow block => exact exportedHookConstant?_constant _ _
  | expression value => exact exportedHookConstant?_constant _ _

def declaration : HookDeclaration where
  name := String.ofList hook.name.text
  body := hook.form.body

end WrittenHook

def readHook? (hit : Hit (List Char)) : Option HookDeclaration :=
  (hookBody? hit.rest).map (HookDeclaration.mk (String.ofList hit.value))

theorem hookDeclarations_perm (text : List Char) :
    (hookDeclarations text).Perm ((hits hookFunction text ++ hits hookConstant text).filterMap readHook?) := by
  apply ((List.mergeSort_perm _ _).map _).trans
  rw [List.map_filterMap]
  simp only [Option.map_map]
  exact .refl _

theorem hookDeclarations_flatMap_print (declarations : List WrittenHook) :
    (hookDeclarations (declarations.flatMap (·.written.print))).Perm
      (declarations.map WrittenHook.declaration) := by
  have reads (hook : WrittenHook) (position : Nat) (more : List Char) :
      readHook? ⟨position, hook.name.text, hook.written.rest ++ '\n' :: more⟩ = some hook.declaration := by
    rw [readHook?, hook.hookBody?_rest]
    rfl
  exact (hookDeclarations_perm _).trans <| filterMap_hits_append_perm readsExports_hookFunction
    readsExports_hookConstant WrittenHook.written WrittenHook.isFunction _ _ _
    WrittenHook.exportedHookFunction?_text WrittenHook.exportedHookConstant?_text reads declarations

/-- The hooks of a module are the ones written in it, each with the record of its own name and body,
whatever stands before and after it. -/
theorem hooks_of_printed_hooks (declarations : List WrittenHook)
    (distinct : (declarations.map (·.name.text)).Nodup) (path : String) (apis known : NameSet) :
    hooks (declarations.flatMap (·.written.print)) path apis known =
      Dict.ofList (declarations.map fun hook =>
        (String.ofList hook.name.text,
          HookDeclaration.hook ⟨String.ofList hook.name.text, hook.form.body⟩ path apis known)) := by
  rw [hooks, stripComments_eq_self (ExportText.lacks_flatMap_print WrittenHook.written declarations)]
  apply Dict.ofListFirst_eq_ofList_of_perm _ (nodup_map_fst_ofList distinct)
  apply ((hookDeclarations_flatMap_print declarations).map _).trans
  rw [List.map_map]
  exact .refl _

def usePeople : WrittenHook where
  name := ⟨'P', "eople".toList, rfl, by decide +kernel⟩
  params := ⟨"page = \x7b at: (0) \x7d".toList, by decide, by decide, by decide⟩
  returns := some
    { parts := .object " data: P[]; load: () => void ".toList (by decide) (.inr rfl)
        (.blank ' ' rfl (.connector '|' (by decide) (.blank ' ' rfl
          (.word "null".toList (by decide) (by decide) (.done (.inr rfl))))))
      inert := by decide }
  form := .function false
    ⟨" return useQuery(\x7b queryKey: ['people'], queryFn: () => getPeople(page) \x7d); ".toList, by decide,
      by decide, by decide +kernel⟩

def useTotal : WrittenHook where
  name := ⟨'T', "otal".toList, rfl, by decide +kernel⟩
  params := .noParams
  returns := some
    { parts := .word "Map".toList (by decide) (by decide)
        (.group .angle (.group .round (.done (.inl rfl)) (.arrow (.word ['V'] (by decide) (by decide)
          (.done (.inl rfl))))) (.done (.inr rfl)))
      inert := by decide }
  form := .expression
    ⟨"useMemo(() => \x7b return sum(); \x7d, [])\n ".toList, by decide, by decide, by decide⟩

def useBoth : WrittenHook where
  name := ⟨'B', "oth".toList, rfl, by decide +kernel⟩
  params := .noParams
  returns := none
  form := .function true ⟨" usePeople(); ".toList, by decide, by decide, by decide⟩

theorem hooks_of_people_total_and_both :
    let source := [useTotal, usePeople, useBoth].flatMap (·.written.print)
    let path := "hooks/people.ts"
    let apis := NameSet.ofList ["getPeople", "sum"]
    let known := NameSet.ofList ["useBoth", "usePeople", "useTotal"]
    source =
        "export const useTotal = (): Map<()=>V> => useMemo(() => \x7b return sum(); \x7d, [])\n ;\n".toList ++
          "export function usePeople(page = \x7b at: (0) \x7d): \x7b data: P[]; load: () => void \x7d | null ".toList ++
          "\x7b return useQuery(\x7b queryKey: ['people'], queryFn: () => getPeople(page) \x7d); \x7d\n".toList ++
          "export default function useBoth() \x7b usePeople(); \x7d\n".toList ∧
      hooks source path apis known = Dict.ofList
        [("useTotal", HookDeclaration.hook ⟨"useTotal", useTotal.form.body⟩ path apis known),
          ("usePeople", HookDeclaration.hook ⟨"usePeople", usePeople.form.body⟩ path apis known),
          ("useBoth", HookDeclaration.hook ⟨"useBoth", useBoth.form.body⟩ path apis known)] ∧
      useTotal.form.body = "useMemo(() => \x7b return sum(); \x7d, [])".toList ∧
      (HookDeclaration.hook ⟨"useTotal", useTotal.form.body⟩ path apis known).dependencies =
        NameSet.ofList ["sum"] := by
  have law := hooks_of_printed_hooks [useTotal, usePeople, useBoth] (by decide) "hooks/people.ts"
    (NameSet.ofList ["getPeople", "sum"]) (NameSet.ofList ["useBoth", "usePeople", "useTotal"])
  exact ⟨by decide +kernel, law, by decide +kernel, by decide +kernel⟩

/-- Blanks before a brace do not make it part of an expression: the body is what the braces hold. -/
theorem hooks_of_spaced_brace :
    let value := " \x7bqueryFn: a\x7d".toList
    let apis := NameSet.ofList ["a"]
    let found := hooks ("export const useA = () => ".toList ++ value ++ ";\n".toList) "hooks/useA.ts" apis
      (NameSet.ofList [])
    value ≠ [] ∧ value.head? ≠ some '{' ∧ expressionDepth? 0 value = some 0 ∧ Lacks inertWords value ∧
      ∀ body ∈ [value, trim value], found ≠ Dict.ofList
        [("useA", HookDeclaration.hook ⟨"useA", body⟩ "hooks/useA.ts" apis (NameSet.ofList []))] := by
  decide +kernel

end FrontendAtlas.Declaration

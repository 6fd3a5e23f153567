import FrontendAtlas.Proofs.Declaration.ApiText
import FrontendAtlas.Proofs.Declaration.InterfaceExtraction
import FrontendAtlas.Proofs.Dict

namespace FrontendAtlas.Declaration

open FrontendAtlas.Text FrontendAtlas.Source

structure ApiSignature where
  name : Identifier
  params : Enclosed .parens
  promised : Enclosed .angles

def ApiSignature.record (api : ApiSignature) (path : String) (window : List Char) : ApiFunction where
  name := String.ofList api.name.text
  path := path
  endpoint := (endpoint? window).map (·.route)
  method := (endpoint? window).map (·.method)
  responseType := String.ofList (trim api.promised.text)

inductive ApiForm where
  | function
  | arrow

structure BlockApi extends ApiSignature where
  form : ApiForm
  block : Enclosed .braces

namespace BlockApi

variable (api : BlockApi)

def lead : List Char :=
  match api.form with
  | .function => asyncFunctionLead api.name
  | .arrow => asyncArrowLead api.name

def body : List Char :=
  match api.form with
  | .function => ' ' :: '{' :: (api.block.text ++ ['}'])
  | .arrow => ' ' :: '=' :: '>' :: ' ' :: '{' :: (api.block.text ++ ['}'])

theorem lacks_body : Lacks inertWords api.body := by
  have closing : Lacks inertWords [] := by decide
  rw [body]
  cases api.form <;>
    simp (disch := decide) only [lacks_append_cons_iff, lacks_cons_iff] <;>
    exact ⟨api.block.inert, closing⟩

def written : ExportText where
  lead := api.lead
  rest := signature api.params api.promised api.body
  exported := by
    rw [lead]
    cases api.form <;> exact List.prefix_append _ _
  plain := by
    rw [lead]
    cases api.form
    · exact all_isLeadPart_asyncFunctionLead api.name
    · exact all_isLeadPart_asyncArrowLead api.name
  inert := lacks_signature api.params api.promised api.lacks_body

theorem bodyWindow_body (rest : List Char) : bodyWindow (api.body ++ rest) = api.block.text.take 500 := by
  rw [body]
  cases api.form
  · simpa using bodyWindow_function api.block rest
  · simpa using bodyWindow_arrow api.block rest

end BlockApi

def readApi? (path : String) (hit : Hit (List Char)) : Option (String × ApiFunction) := do
  let (promised, body) ← promiseAndBody? hit.rest
  let name := String.ofList hit.value
  let endpoint := endpoint? body
  return (name, ⟨name, path, endpoint.map (·.route), endpoint.map (·.method), String.ofList promised⟩)

theorem apiFunctions_eq {source : List Char} (free : Lacks commentSigns source) (path : String) :
    apiFunctions source path =
      Dict.ofListFirst ((hits asyncFunction source ++ hits asyncArrow source).filterMap (readApi? path)) := by
  rw [apiFunctions, stripComments_eq_self free]
  rfl

theorem signature_append (params : Enclosed .parens) (promised : Enclosed .angles) (tail rest : List Char) :
    signature params promised tail ++ rest = signature params promised (tail ++ rest) := by
  simp [signature]

theorem readApi?_signature (api : ApiSignature) (path : String) (position : Nat) (tail : List Char) :
    readApi? path ⟨position, api.name.text, signature api.params api.promised tail⟩ =
      some (String.ofList api.name.text, api.record path (bodyWindow tail)) := by
  simp [readApi?, promiseAndBody?_signature, ApiSignature.record]

namespace BlockApi

def isFunction (api : BlockApi) : Bool :=
  match api.form with
  | .function => true
  | .arrow => false

def entry (path : String) (api : BlockApi) : String × ApiFunction :=
  (String.ofList api.name.text, api.record path (api.block.text.take 500))

variable (api : BlockApi)

theorem exportedAsyncFunction?_text (more : List Char) :
    exportedAsyncFunction? (api.written.text ++ more) =
      if api.isFunction then some (api.name.text, api.written.rest ++ more) else none := by
  rw [ExportText.text_append]
  obtain ⟨signature, form, block⟩ := api
  cases form
  · exact exportedAsyncFunction?_function _ _
  · exact exportedAsyncFunction?_arrow _ _

theorem exportedAsyncArrow?_text (more : List Char) :
    exportedAsyncArrow? (api.written.text ++ more) =
      if !api.isFunction then some (api.name.text, api.written.rest ++ more) else none := by
  rw [ExportText.text_append]
  obtain ⟨signature, form, block⟩ := api
  cases form
  · exact exportedAsyncArrow?_function _ _
  · exact exportedAsyncArrow?_arrow _ _

theorem readApi?_rest (path : String) (position : Nat) (more : List Char) :
    readApi? path ⟨position, api.name.text, api.written.rest ++ more⟩ = some (api.entry path) := by
  have rest : api.written.rest = signature api.params api.promised api.body := rfl
  rw [rest, signature_append, readApi?_signature, bodyWindow_body]
  rfl

end BlockApi

theorem apiFunctions_flatMap_print (declarations : List BlockApi)
    (distinct : (declarations.map (·.name.text)).Nodup) (path : String) :
    apiFunctions (declarations.flatMap (·.written.print)) path =
      Dict.ofList (declarations.map (BlockApi.entry path)) := by
  rw [apiFunctions_eq (ExportText.lacks_flatMap_print BlockApi.written declarations)]
  apply Dict.ofListFirst_eq_ofList_of_perm _ (nodup_map_fst_ofList distinct)
  exact filterMap_hits_append_perm readsExports_asyncFunction readsExports_asyncArrow BlockApi.written
    BlockApi.isFunction _ _ _ BlockApi.exportedAsyncFunction?_text BlockApi.exportedAsyncArrow?_text
    (fun api _ _ => api.readApi?_rest path _ _) declarations

/-- The API functions of a module of functions with bodies in braces are those functions: each with its
promised type and the request made in the first 500 characters of its body, in whichever of the two forms
it is written. -/
theorem apiFunctions_of_printed_blocks (declarations : List BlockApi)
    (distinct : (declarations.map (·.name.text)).Nodup) (path : String) :
    apiFunctions (declarations.flatMap (·.written.print)) path =
        Dict.ofList (declarations.map fun api =>
          (String.ofList api.name.text, api.record path (api.block.text.take 500))) ∧
      ∀ forms : BlockApi → ApiForm,
        apiFunctions ((declarations.map fun api => { api with form := forms api }).flatMap (·.written.print))
          path = apiFunctions (declarations.flatMap (·.written.print)) path := by
  refine ⟨apiFunctions_flatMap_print declarations distinct path, fun forms => ?_⟩
  rw [apiFunctions_flatMap_print declarations distinct, apiFunctions_flatMap_print, List.map_map]
  · rfl
  · rw [List.map_map]
    exact distinct

def findPerson : BlockApi where
  name := ⟨'f', "indPerson".toList, rfl, by decide +kernel⟩
  params := ⟨"id: string, keep = (p) => (p)".toList, by decide, by decide, by decide⟩
  promised := ⟨" Map<string, (p: P) => P> ".toList, by decide, by decide, by decide⟩
  form := .function
  block := ⟨" if (id) \x7b log(id); \x7d return get<P>('/people'); ".toList, by decide, by decide, by decide⟩

def exportCsv : BlockApi where
  name := ⟨'e', "xportCsv".toList, rfl, by decide +kernel⟩
  params := .noParams
  promised := ⟨"Blob".toList, by decide, by decide, by decide⟩
  form := .arrow
  block := ⟨" await post(`/csv/$\x7bkey\x7d`); ".toList, by decide, by decide, by decide⟩

theorem apiFunctions_of_person_and_csv :
    let source := [findPerson, exportCsv].flatMap (·.written.print)
    let arrows := [{ findPerson with form := .arrow }, exportCsv].flatMap (·.written.print)
    let path := "services/api/people.ts"
    source =
        "export async function findPerson(id: string, keep = (p) => (p)): Promise< Map<string, (p: P) => P> > ".toList ++
          "\x7b if (id) \x7b log(id); \x7d return get<P>('/people'); \x7d\n".toList ++
          "export const exportCsv = async (): Promise<Blob> => \x7b await post(`/csv/$\x7bkey\x7d`); \x7d\n".toList ∧
      apiFunctions source path = Dict.ofList
        [("findPerson", findPerson.record path (findPerson.block.text.take 500)),
          ("exportCsv", exportCsv.record path (exportCsv.block.text.take 500))] ∧
      (findPerson.record path (findPerson.block.text.take 500)).endpoint = some "/people" ∧
      apiFunctions arrows path = apiFunctions source path := by
  have law := apiFunctions_of_printed_blocks [findPerson, exportCsv] (by decide) "services/api/people.ts"
  exact ⟨by decide +kernel, law.1, by decide +kernel, law.2 fun _ => .arrow⟩

structure ExpressionApi extends ApiSignature where
  value : Expression

namespace ExpressionApi

variable (api : ExpressionApi)

def body : List Char :=
  ' ' :: '=' :: '>' :: ' ' :: (api.value.text ++ [';'])

def written : ExportText where
  lead := asyncArrowLead api.name
  rest := signature api.params api.promised api.body
  exported := List.prefix_append _ _
  plain := all_isLeadPart_asyncArrowLead api.name
  inert := by
    apply lacks_signature
    simp (disch := decide) only [body, lacks_append_cons_iff, lacks_cons_iff]
    exact ⟨api.value.inert, by decide⟩

def window (more : List Char) : List Char :=
  (trimStart api.value.text ++ ';' :: more).take 500

theorem readApi?_rest (path : String) (position : Nat) (more : List Char) :
    readApi? path ⟨position, api.name.text, api.written.rest ++ more⟩ =
      some (String.ofList api.name.text, api.record path (api.window more)) := by
  have rest : api.written.rest = signature api.params api.promised api.body := rfl
  have tail : api.body ++ more = ' ' :: '=' :: '>' :: ' ' :: (api.value.text ++ ';' :: more) := by simp [body]
  rw [rest, signature_append, readApi?_signature, tail, bodyWindow_expression]
  rfl

end ExpressionApi

inductive ApiText where
  | block (api : BlockApi)
  | expression (api : ExpressionApi)

namespace ApiText

def name : ApiText → Identifier
  | block api => api.name
  | expression api => api.name

def written : ApiText → ExportText
  | block api => api.written
  | expression api => api.written

def isFunction : ApiText → Bool
  | block api => api.isFunction
  | expression _ => false

theorem exportedAsyncFunction?_text (api : ApiText) (more : List Char) :
    exportedAsyncFunction? (api.written.text ++ more) =
      if api.isFunction then some (api.name.text, api.written.rest ++ more) else none := by
  cases api with
  | block api => exact api.exportedAsyncFunction?_text more
  | expression api =>
    rw [ExportText.text_append]
    exact exportedAsyncFunction?_arrow _ _

end ApiText

theorem readApi?_eq_some {path : String} {hit : Hit (List Char)} {entry : String × ApiFunction}
    (read : readApi? path hit = some entry) : entry.1 = String.ofList hit.value := by
  simp only [readApi?, Option.bind_eq_bind, Option.bind_eq_some_iff, Option.pure_def, Option.some.injEq] at read
  obtain ⟨_, -, rfl⟩ := read
  rfl

theorem lookup_filterMap_readApi? {hits : List (Hit (List Char))} {name : List Char} (path : String)
    (others : ∀ hit ∈ hits, hit.value ≠ name) :
    (hits.filterMap (readApi? path)).lookup (String.ofList name) = none := by
  rw [List.lookup_eq_none_iff]
  intro entry member
  obtain ⟨hit, found, read⟩ := List.mem_filterMap.1 member
  have other : String.ofList hit.value ≠ String.ofList name := by
    intro same
    exact others hit found (by simpa using congrArg String.toList same)
  simpa [readApi?_eq_some read] using other.symm

theorem get?_apiFunctions_followed (api : ExpressionApi) {tail : List Char}
    (ends : ∀ c ∈ tail.head?, c = '\n') (free : Lacks commentSigns (api.written.text ++ tail))
    (others : ∀ position before, ∀ hit ∈ hitsFrom asyncFunction 0 position before tail,
      hit.value ≠ api.name.text) (path : String) :
    (apiFunctions (api.written.text ++ tail) path).get? (String.ofList api.name.text) =
      some (api.record path (api.window tail)) := by
  obtain ⟨_, _, functions⟩ := api.written.hitsFrom_missed readsExports_asyncFunction ends
    (by rw [ExportText.text_append]; exact exportedAsyncFunction?_arrow _ _) 0
  have start : (none : Option Char).all (· == '\n') = true := rfl
  obtain ⟨_, _, arrows⟩ := api.written.hitsFrom_found readsExports_asyncArrow start ends
    (by rw [ExportText.text_append]; exact exportedAsyncArrow?_arrow _ _) 0
  have none_before : ((hits asyncFunction (api.written.text ++ tail)).filterMap (readApi? path)).lookup
      (String.ofList api.name.text) = none := by
    apply lookup_filterMap_readApi?
    rw [hits, asyncFunction, functions]
    exact others _ _
  rw [apiFunctions_eq free, Dict.get?_ofListFirst, List.filterMap_append, List.lookup_append, none_before,
    Option.none_or, hits, asyncArrow, arrows, List.filterMap_cons_some (api.readApi?_rest path _ _),
    List.lookup_cons_self]

theorem value_of_mem_hitsFrom {more : List ApiText} {name : List Char}
    (others : ∀ other ∈ more, other.name.text ≠ name) (position : Nat) (before : Option Char) :
    ∀ hit ∈ hitsFrom asyncFunction 0 position before ('\n' :: more.flatMap (·.written.print)),
      hit.value ≠ name := by
  have values : (hitsFrom asyncFunction 0 (position + 1) (some '\n')
      (more.flatMap (·.written.print))).filterMap (fun hit => some hit.value) =
        (more.filter ApiText.isFunction).map (·.name.text) :=
    filterMap_hits_print readsExports_asyncFunction ApiText.written _ _ _ _
      ApiText.exportedAsyncFunction?_text (fun _ _ _ => rfl) more rfl _
  intro hit found
  rw [asyncFunction, hitsFrom_newline readsExports_asyncFunction] at found
  have value : hit.value ∈ (more.filter ApiText.isFunction).map (·.name.text) := by
    rw [← values]
    exact List.mem_filterMap.2 ⟨hit, found, rfl⟩
  obtain ⟨other, member, same⟩ := List.mem_map.1 value
  rw [← same]
  exact others other (List.mem_filter.1 member).1

/-- The request of a function with an expression for a body is looked for in the 500 characters from the
expression on.  If the expression fills them, what follows the declaration has no part in it. -/
theorem get?_apiFunctions_of_expression (api : ExpressionApi) (more : List ApiText)
    (others : ∀ other ∈ more, other.name.text ≠ api.name.text) (path : String) :
    let name := String.ofList api.name.text
    let following := '\n' :: more.flatMap (·.written.print)
    (apiFunctions (api.written.text ++ following) path).get? name =
        some (api.record path ((trimStart api.value.text ++ ';' :: following).take 500)) ∧
      (500 ≤ (trimStart api.value.text ++ [';']).length →
        (apiFunctions (api.written.text ++ following) path).get? name =
          (apiFunctions api.written.text path).get? name) := by
  intro name following
  have first := get?_apiFunctions_followed api (by simp)
    ((lacks_append_cons_iff (by decide)).2
      ⟨api.written.lacks_text, ExportText.lacks_flatMap_print ApiText.written more⟩)
    (value_of_mem_hitsFrom others) path
  refine ⟨first, fun fills => ?_⟩
  have alone : (apiFunctions (api.written.text ++ []) path).get? name =
      some (api.record path (api.window [])) :=
    get?_apiFunctions_followed api (by simp) (by simpa using api.written.lacks_text) (by simp [hitsFrom]) path
  have windows : api.window following = api.window [] := by
    have split : trimStart api.value.text ++ ';' :: following =
        (trimStart api.value.text ++ [';']) ++ following := by simp
    rw [ExpressionApi.window, ExpressionApi.window, split, List.take_append_of_le_length fills]
  rw [List.append_nil] at alone
  rw [first, alone, windows]

def loadAll : ExpressionApi where
  name := ⟨'l', "oadAll".toList, rfl, by decide +kernel⟩
  params := .noParams
  promised := ⟨"All".toList, by decide, by decide, by decide⟩
  value := ⟨"load()".toList, by decide, by decide, by decide⟩

def loadPadded : ExpressionApi where
  toApiSignature := loadAll.toApiSignature
  value := ⟨"load('".toList ++ List.replicate 500 '0' ++ "')".toList, by decide +kernel, by decide +kernel,
    by decide +kernel⟩

theorem get?_apiFunctions_of_loads :
    let following := '\n' :: [ApiText.block findPerson].flatMap (·.written.print)
    (apiFunctions (loadAll.written.text ++ following) "services/api/all.ts").get? "loadAll" =
        some (loadAll.record "services/api/all.ts" (("load();".toList ++ following).take 500)) ∧
      500 ≤ (trimStart loadPadded.value.text ++ [';']).length ∧
      (apiFunctions (loadPadded.written.text ++ following) "services/api/all.ts").get? "loadAll" =
        (apiFunctions loadPadded.written.text "services/api/all.ts").get? "loadAll" := by
  have fills : 500 ≤ (trimStart loadPadded.value.text ++ [';']).length := by decide +kernel
  have apart : ∀ other ∈ [ApiText.block findPerson], other.name.text ≠ loadAll.name.text := by
    simp [ApiText.name, findPerson, loadAll, Identifier.text]
  exact ⟨(get?_apiFunctions_of_expression loadAll [.block findPerson] apart "services/api/all.ts").1, fills,
    (get?_apiFunctions_of_expression loadPadded [.block findPerson] apart "services/api/all.ts").2 fills⟩

/-- The request of the function after it is taken for its own. -/
theorem get?_apiFunctions_of_load_not_local :
    let source := "export const f = async (): Promise<A> => load();".toList
    let following := "\nexport async function g(): Promise<B> \x7b return get('/b'); \x7d".toList
    let path := "services/api/f.ts"
    (apiFunctions (source ++ following) path).get? "f" = some ⟨"f", path, some "/b", some .get, "A"⟩ ∧
      (apiFunctions source path).get? "f" = some ⟨"f", path, none, none, "A"⟩ := by
  decide +kernel

end FrontendAtlas.Declaration

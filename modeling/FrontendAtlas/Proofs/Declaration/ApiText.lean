import FrontendAtlas.Declaration.ApiFunction
import FrontendAtlas.Proofs.Declaration.InterfaceText
import FrontendAtlas.Proofs.Source.ExportText

namespace FrontendAtlas.Declaration

open FrontendAtlas.Text FrontendAtlas.Source

namespace Identifier

variable (name : Identifier)

theorem all_isLeadPart_text : name.text.all isLeadPart = true := by
  rw [List.all_eq_true]
  intro c member
  exact isLeadPart_of_isIdentPart (List.all_eq_true.1 name.all_isIdentPart c member)

theorem visible_text (rest : List Char) : ∀ c ∈ (name.text ++ rest).head?, isBlank c = false := by
  simpa [text] using not_isBlank_of_isIdentPart (isIdentPart_of_isIdentStart name.starts)

theorem ident?_text {rest : List Char} (stop : ∀ c ∈ rest.head?, isIdentPart c = false) :
    ident? (name.text ++ rest) = some (name.text, rest) :=
  ident?_append name.starts (List.all_eq_true.1 name.continues) stop

end Identifier

section Lead

variable (name : Identifier) (rest : List Char)

def asyncFunctionLead : List Char :=
  spaced ["export", "async", "function"] name.text

def asyncArrowLead : List Char :=
  spaced ["export", "const"] (name.text ++ " = async ".toList)

theorem all_isLeadPart_asyncFunctionLead : (asyncFunctionLead name).all isLeadPart = true :=
  all_isLeadPart_spaced (by decide) name.all_isLeadPart_text

theorem all_isLeadPart_asyncArrowLead : (asyncArrowLead name).all isLeadPart = true := by
  apply all_isLeadPart_spaced (by decide)
  rw [List.all_append, name.all_isLeadPart_text]
  decide

theorem keyword?_asyncFunctionLead : keyword? "export" (asyncFunctionLead name ++ '(' :: rest) =
    some (spaced ["async", "function"] (name.text ++ '(' :: rest)) := by
  rw [asyncFunctionLead, spaced_append]
  exact keyword?_spaced (by simp [spaced, isBlank])

theorem keyword?_asyncArrowLead : keyword? "export" (asyncArrowLead name ++ '(' :: rest) =
    some (spaced ["const"] (name.text ++ " = async (".toList ++ rest)) := by
  rw [asyncArrowLead, spaced_append, List.append_assoc, List.append_assoc]
  exact keyword?_spaced (by simp [spaced, isBlank])

theorem exportedAsyncFunction?_function :
    exportedAsyncFunction? (asyncFunctionLead name ++ '(' :: rest) = some (name.text, rest) := by
  have async : keyword? "async" (spaced ["async", "function"] (name.text ++ '(' :: rest)) =
      some (spaced ["function"] (name.text ++ '(' :: rest)) := keyword?_spaced (by simp [spaced, isBlank])
  have function : keyword? "function" (spaced ["function"] (name.text ++ '(' :: rest)) =
      some (name.text ++ '(' :: rest) := keyword?_spaced (name.visible_text _)
  have ident : ident? (name.text ++ '(' :: rest) = some (name.text, '(' :: rest) :=
    name.ident?_text (by simp; decide)
  simp only [exportedAsyncFunction?, keyword?_asyncFunctionLead, async, function, ident,
    parametersOpen?_paren, Option.bind_eq_bind, Option.bind_some, Option.pure_def]

theorem exportedAsyncFunction?_arrow :
    exportedAsyncFunction? (asyncArrowLead name ++ '(' :: rest) = none := by
  have async : keyword? "async" (spaced ["const"] (name.text ++ " = async (".toList ++ rest)) = none :=
    keyword?_eq_none (by simp [spaced])
  simp only [exportedAsyncFunction?, keyword?_asyncArrowLead, async, Option.bind_eq_bind, Option.bind_some,
    Option.bind_none]

theorem exportedAsyncArrow?_arrow :
    exportedAsyncArrow? (asyncArrowLead name ++ '(' :: rest) = some (name.text, rest) := by
  have const : keyword? "const" (spaced ["const"] (name.text ++ " = async (".toList ++ rest)) =
      some (name.text ++ (" = async (".toList ++ rest)) := by
    rw [List.append_assoc]
    exact keyword?_spaced (name.visible_text _)
  have ident : ident? (name.text ++ (" = async (".toList ++ rest)) =
      some (name.text, " = async (".toList ++ rest) := name.ident?_text (by simp; decide)
  have value : assigned? (· == '=') (" = async (".toList ++ rest) = some (" async (".toList ++ rest) := by
    simp [assigned?, trimStart, isBlank]
  have async : word? "async" (trimStart (" async (".toList ++ rest)) = some (' ' :: '(' :: rest) := by
    simp [word?, after?, trimStart, isBlank]
  have params : char? '(' (trimStart (' ' :: '(' :: rest)) = some rest := by simp [char?, trimStart, isBlank]
  simp only [exportedAsyncArrow?, keyword?_asyncArrowLead, const, ident, value, async, params,
    Option.bind_eq_bind, Option.bind_some, Option.pure_def]

theorem exportedAsyncArrow?_function :
    exportedAsyncArrow? (asyncFunctionLead name ++ '(' :: rest) = none := by
  have const : keyword? "const" (spaced ["async", "function"] (name.text ++ '(' :: rest)) = none :=
    keyword?_eq_none (by simp [spaced])
  simp only [exportedAsyncArrow?, keyword?_asyncFunctionLead, const, Option.bind_eq_bind, Option.bind_some,
    Option.bind_none]

theorem readsExports_asyncFunction : ReadsExports exportedAsyncFunction? := by
  intro text missing
  simp [exportedAsyncFunction?, keyword?_eq_none missing]

theorem readsExports_asyncArrow : ReadsExports exportedAsyncArrow? := by
  intro text missing
  simp [exportedAsyncArrow?, keyword?_eq_none missing]

end Lead

section Signature

variable (params : Enclosed .parens) (promised : Enclosed .angles) (block : Enclosed .braces)
  (value : Expression)

def signature (tail : List Char) : List Char :=
  params.text ++ ')' :: ':' :: ' ' :: ("Promise".toList ++ '<' :: (promised.text ++ '>' :: tail))

theorem lacks_signature {tail : List Char} (inert : Lacks inertWords tail) :
    Lacks inertWords (signature params promised tail) := by
  simp (disch := decide) only [signature, lacks_append_cons_iff, lacks_cons_iff]
  exact ⟨params.inert, by decide, promised.inert, inert⟩

def bodyWindow (tail : List Char) : List Char :=
  let text := trimStart tail
  let text := ((word? "=>" text).map trimStart).getD text
  (if text.head? = some '{' then Delimiters.braces.contents text else text).take 500

theorem promiseAndBody?_signature (tail : List Char) :
    promiseAndBody? (signature params promised tail) = some (trim promised.text, bodyWindow tail) := by
  have parens : Delimiters.parens.body? ('(' :: signature params promised tail) =
      some (params.text, ':' :: ' ' :: ("Promise".toList ++ '<' :: (promised.text ++ '>' :: tail))) :=
    params.body?_parens _
  have angles : Delimiters.angles.body? ('<' :: (promised.text ++ '>' :: tail)) = some (promised.text, tail) :=
    Delimiters.body?_append promised.balanced promised.closable (by decide) _
  have colon : char? ':' (trimStart (':' :: ' ' :: ("Promise".toList ++ '<' :: (promised.text ++ '>' :: tail)))) =
      some (' ' :: ("Promise".toList ++ '<' :: (promised.text ++ '>' :: tail))) := by
    simp [char?, trimStart, isBlank]
  have promise : word? "Promise" (trimStart (' ' :: ("Promise".toList ++ '<' :: (promised.text ++ '>' :: tail)))) =
      some ('<' :: (promised.text ++ '>' :: tail)) := by
    simp [word?, after?, trimStart, isBlank]
  have opening : trimStart ('<' :: (promised.text ++ '>' :: tail)) = '<' :: (promised.text ++ '>' :: tail) :=
    trimStart_cons_of_not_blank (by decide) _
  simp only [promiseAndBody?, parens, colon, promise, opening, angles, Option.bind_eq_bind, Option.bind_some,
    Option.pure_def]
  rfl

theorem bodyWindow_function (rest : List Char) :
    bodyWindow (' ' :: '{' :: (block.text ++ '}' :: rest)) = block.text.take 500 := by
  simp [bodyWindow, trimStart, isBlank, word?, after?, Enclosed.contents_braces]

theorem bodyWindow_arrow (rest : List Char) :
    bodyWindow (' ' :: '=' :: '>' :: ' ' :: '{' :: (block.text ++ '}' :: rest)) = block.text.take 500 := by
  simp [bodyWindow, trimStart, isBlank, word?, after?, Enclosed.contents_braces]

theorem bodyWindow_expression (rest : List Char) :
    bodyWindow (' ' :: '=' :: '>' :: ' ' :: (value.text ++ ';' :: rest)) =
      (trimStart value.text ++ ';' :: rest).take 500 := by
  have arrow : trimStart (' ' :: '=' :: '>' :: ' ' :: (value.text ++ ';' :: rest)) =
      '=' :: '>' :: ' ' :: (value.text ++ ';' :: rest) := by simp [trimStart, isBlank]
  have after : trimStart (' ' :: (value.text ++ ';' :: rest)) = trimStart value.text ++ ';' :: rest := by
    rw [trimStart_cons_of_blank (by decide), trimStart_append_cons (by decide)]
  have body : word? "=>" ('=' :: '>' :: ' ' :: (value.text ++ ';' :: rest)) =
      some (' ' :: (value.text ++ ';' :: rest)) := by simp [word?, after?]
  simp only [bodyWindow, arrow, body, after, Option.map_some, Option.getD_some, value.head?_ne, if_false]

end Signature

end FrontendAtlas.Declaration

import FrontendAtlas.Declaration.Hook
import FrontendAtlas.Proofs.Source.ReturnType

namespace FrontendAtlas.Declaration

open FrontendAtlas.Text FrontendAtlas.Source

structure HookName where
  first : Char
  parts : List Char
  starts : (first.isUpper || first.isDigit || first == '_' || first == '$') = true
  continues : parts.all isIdentPart = true

namespace HookName

variable (name : HookName)

def text : List Char :=
  'u' :: 's' :: 'e' :: name.first :: name.parts

theorem all_isLeadPart_text : name.text.all isLeadPart = true := by
  have first : isLeadPart name.first = true := by
    have starts := name.starts
    rw [isLeadPart, Bool.and_eq_true, bne_iff_ne, bne_iff_ne]
    constructor <;> intro same <;> rw [same] at starts <;> exact absurd starts (by decide)
  have parts : name.parts.all isLeadPart = true := by
    rw [List.all_eq_true]
    intro c member
    exact isLeadPart_of_isIdentPart (List.all_eq_true.1 name.continues c member)
  have use : "use".toList.all isLeadPart = true := by decide
  simpa [text, first, parts] using use

theorem visible_text (rest : List Char) : ∀ c ∈ (name.text ++ rest).head?, isBlank c = false := by
  simp [text, isBlank]

theorem hookName?_text {rest : List Char} (stop : ∀ c ∈ rest.head?, isIdentPart c = false) :
    hookName? (name.text ++ rest) = some (name.text, rest) := by
  have cut := span_append (List.all_eq_true.1 name.continues) stop
  have word : word? "use" (name.text ++ rest) = some (name.first :: (name.parts ++ rest)) := by
    simp [word?, after?, text]
  simp only [hookName?, word, Option.bind_eq_bind, Option.bind_some, name.starts, if_true, cut.1, cut.2]
  rfl

end HookName

section Lead

variable (name : HookName) (rest : List Char)

def hookFunctionLead (isDefault : Bool) : List Char :=
  spaced (if isDefault then ["export", "default", "function"] else ["export", "function"]) name.text

def hookConstantLead : List Char :=
  spaced ["export", "const"] (name.text ++ " = ".toList)

theorem all_isLeadPart_hookFunctionLead (isDefault : Bool) :
    (hookFunctionLead name isDefault).all isLeadPart = true := by
  apply all_isLeadPart_spaced _ name.all_isLeadPart_text
  cases isDefault <;> decide

theorem all_isLeadPart_hookConstantLead : (hookConstantLead name).all isLeadPart = true := by
  apply all_isLeadPart_spaced (by decide)
  rw [List.all_append, name.all_isLeadPart_text]
  decide

theorem keyword?_hookFunctionLead (isDefault : Bool) :
    keyword? "export" (hookFunctionLead name isDefault ++ '(' :: rest) =
      some (spaced (if isDefault then ["default", "function"] else ["function"]) (name.text ++ '(' :: rest)) := by
  rw [hookFunctionLead, spaced_append]
  cases isDefault <;> exact keyword?_spaced (by simp [spaced, isBlank])

theorem keyword?_hookConstantLead : keyword? "export" (hookConstantLead name ++ '(' :: rest) =
    some (spaced ["const"] (name.text ++ " = (".toList ++ rest)) := by
  rw [hookConstantLead, spaced_append, List.append_assoc, List.append_assoc]
  exact keyword?_spaced (by simp [spaced, isBlank])

theorem exportedHookFunction?_function (isDefault : Bool) :
    exportedHookFunction? (hookFunctionLead name isDefault ++ '(' :: rest) = some (name.text, rest) := by
  have skip : skipKeyword "default"
      (spaced (if isDefault then ["default", "function"] else ["function"]) (name.text ++ '(' :: rest)) =
        spaced ["function"] (name.text ++ '(' :: rest) := by
    cases isDefault with
    | false =>
      have missing : keyword? "default" (spaced ["function"] (name.text ++ '(' :: rest)) = none :=
        keyword?_eq_none (by simp [spaced])
      simp [skipKeyword, missing]
    | true =>
      have found : keyword? "default" (spaced ["default", "function"] (name.text ++ '(' :: rest)) =
          some (spaced ["function"] (name.text ++ '(' :: rest)) := keyword?_spaced (by simp [spaced, isBlank])
      simp [skipKeyword, found]
  have function : keyword? "function" (spaced ["function"] (name.text ++ '(' :: rest)) =
      some (name.text ++ '(' :: rest) := keyword?_spaced (name.visible_text _)
  have ident : hookName? (name.text ++ '(' :: rest) = some (name.text, '(' :: rest) :=
    name.hookName?_text (by simp; decide)
  simp only [exportedHookFunction?, keyword?_hookFunctionLead, skip, function, ident, parametersOpen?_paren,
    Option.bind_eq_bind, Option.bind_some, Option.pure_def]

theorem exportedHookFunction?_constant :
    exportedHookFunction? (hookConstantLead name ++ '(' :: rest) = none := by
  have skip : skipKeyword "default" (spaced ["const"] (name.text ++ " = (".toList ++ rest)) =
      spaced ["const"] (name.text ++ " = (".toList ++ rest) := by
    rw [skipKeyword, keyword?_eq_none (by simp [spaced]), Option.getD_none]
  have function : keyword? "function" (spaced ["const"] (name.text ++ " = (".toList ++ rest)) = none :=
    keyword?_eq_none (by simp [spaced])
  simp only [exportedHookFunction?, keyword?_hookConstantLead, skip, function, Option.bind_eq_bind,
    Option.bind_some, Option.bind_none]

theorem exportedHookConstant?_constant :
    exportedHookConstant? (hookConstantLead name ++ '(' :: rest) = some (name.text, rest) := by
  have const : keyword? "const" (spaced ["const"] (name.text ++ " = (".toList ++ rest)) =
      some (name.text ++ (" = (".toList ++ rest)) := by
    rw [List.append_assoc]
    exact keyword?_spaced (name.visible_text _)
  have ident : hookName? (name.text ++ (" = (".toList ++ rest)) = some (name.text, " = (".toList ++ rest) :=
    name.hookName?_text (by simp; decide)
  have value : assigned? (· == '=') (" = (".toList ++ rest) = some (' ' :: '(' :: rest) := by
    simp [assigned?, trimStart, isBlank]
  have opening : trimStart (' ' :: '(' :: rest) = '(' :: rest := by simp [trimStart, isBlank]
  have plain : word? "async" ('(' :: rest) = none := by simp [word?, after?]
  simp only [exportedHookConstant?, keyword?_hookConstantLead, const, ident, value, opening, plain, char?,
    Option.bind_eq_bind, Option.bind_some, Option.map_none, Option.getD_none, Option.pure_def, if_true]

theorem exportedHookConstant?_function (isDefault : Bool) :
    exportedHookConstant? (hookFunctionLead name isDefault ++ '(' :: rest) = none := by
  have const : keyword? "const"
      (spaced (if isDefault then ["default", "function"] else ["function"]) (name.text ++ '(' :: rest)) =
        none := by
    cases isDefault <;> exact keyword?_eq_none (by simp [spaced])
  simp only [exportedHookConstant?, keyword?_hookFunctionLead, const, Option.bind_eq_bind, Option.bind_some,
    Option.bind_none]

theorem readsExports_hookFunction : ReadsExports exportedHookFunction? := by
  intro text missing
  simp [exportedHookFunction?, keyword?_eq_none missing]

theorem readsExports_hookConstant : ReadsExports exportedHookConstant? := by
  intro text missing
  simp [exportedHookConstant?, keyword?_eq_none missing]

end Lead

theorem not_startsWith_export {text : List Char} (quiet : ¬ "export".toList <:+: text)
    (rest : List Char) : ¬ startsWith "export ".toList (trimStart (text ++ ';' :: rest)) = true := by
  rw [trimStart_append_cons (by decide), startsWith_iff, prefix_append_cons_iff (by decide)]
  intro exported
  have word : "export".toList <+: "export ".toList := by decide
  exact quiet ((word.trans exported).isInfix.trans (List.dropWhile_suffix _).isInfix)

theorem expressionFrom_opener {c : Char} {depth : Nat} {rest : List Char} (opens : c = '(' ∨ c = '{' ∨ c = '[') :
    expressionFrom depth (c :: rest) = c :: expressionFrom (depth + 1) rest := by
  rw [expressionFrom.eq_def]
  exact if_pos opens

theorem expressionFrom_other {c : Char} {depth : Nat} {rest : List Char}
    (flat : ¬ (c = '(' ∨ c = '{' ∨ c = '[')) (stays : ¬ (c = ')' ∨ c = '}' ∨ c = ']'))
    (goes : ¬ (c = ';' ∧ depth = 0))
    (inline : ¬ (c = '\n' ∧ depth = 0 ∧ startsWith "export ".toList (trimStart rest) = true)) :
    expressionFrom depth (c :: rest) = c :: expressionFrom depth rest := by
  rw [expressionFrom.eq_def]
  exact (if_neg flat).trans ((if_neg stays).trans ((if_neg goes).trans (if_neg inline)))

theorem expressionFrom_append {text : List Char} {depth : Nat} (ends : expressionDepth? depth text = some 0)
    (quiet : ¬ "export".toList <:+: text) (rest : List Char) :
    expressionFrom depth (text ++ ';' :: rest) = text := by
  fun_induction expressionDepth? depth text with
  | case1 depth =>
    cases ends
    rfl
  | case2 depth c text opens ih =>
    rw [List.cons_append, expressionFrom_opener opens, ih ends (mt List.infix_cons quiet)]
  | case3 => cases ends
  | case4 c text flat closes depth ih =>
    rw [List.cons_append, expressionFrom, if_neg flat, if_pos closes]
    exact congrArg _ (ih ends (mt List.infix_cons quiet))
  | case5 => cases ends
  | case6 depth c text flat stays goes ih =>
    have inline := not_startsWith_export (mt List.infix_cons quiet) rest
    rw [List.cons_append, expressionFrom_other flat stays goes fun line => inline line.2.2,
      ih ends (mt List.infix_cons quiet)]

theorem expression_append (value : Expression) (rest : List Char) :
    expression (' ' :: (value.text ++ ';' :: rest)) = trim value.text := by
  have quiet : ¬ "export".toList <:+: value.text := value.inert "export" (by simp [inertWords])
  have spaced : expressionFrom 0 (' ' :: (value.text ++ ';' :: rest)) = ' ' :: value.text := by
    simp [expressionFrom, expressionFrom_append value.balanced quiet]
  rw [expression, spaced, trim, trimStart_cons_of_blank (by decide), trim]

theorem trim_takeWhile_ne_nil (value : Expression) (rest : List Char) :
    trim ((' ' :: (value.text ++ ';' :: rest)).takeWhile (· ≠ '{')) ≠ [] := by
  have start : trimStart (' ' :: (value.text ++ ';' :: rest)) = trimStart value.text ++ ';' :: rest := by
    rw [trimStart_cons_of_blank (by decide), trimStart_append_cons (by decide)]
  cases found : (trimStart (' ' :: (value.text ++ ';' :: rest))).head? with
  | none => simp [start] at found
  | some c =>
    have visible := List.head?_dropWhile_not isBlank (' ' :: (value.text ++ ';' :: rest))
    rw [trimStart] at found
    rw [found] at visible
    have other : c ≠ '{' := by
      intro same
      apply value.head?_ne rest
      rw [← start, ← same, trimStart, found]
    apply trim_ne_nil (mem_takeWhile_trimStart _ found (by simpa using other)) visible
    intro b blank
    apply decide_eq_true
    rintro rfl
    exact absurd blank (by decide)

def bodyFrom? (text : List Char) : Option (List Char) :=
  match cutAt? "=>".toList text, cutAt? ['{'] text with
  | some (_, arrow), none => some (expression (arrow.drop 2))
  | none, none => none
  | none, some (_, block) => some (Delimiters.braces.contents block)
  | some (beforeArrow, arrow), some (beforeBrace, block) =>
    if beforeArrow.length < beforeBrace.length ∧
        ¬ (trim ((arrow.drop 2).takeWhile (· ≠ '{'))).isEmpty then
      some (expression (arrow.drop 2))
    else some (Delimiters.braces.contents block)

theorem hookBody?_params (params : Enclosed .parens) (text : List Char) :
    hookBody? (params.text ++ ')' :: text) = (afterAnnotation? text).bind bodyFrom? := by
  simp only [hookBody?, params.body?_parens, Option.bind_eq_bind, Option.bind_some]
  rfl

section Body

variable (block : Enclosed .braces) (value : Expression) {gap : List Char} (blank : ∀ c ∈ gap, c = ' ')
  (rest : List Char)
include blank

theorem notMem_gap {c : Char} (other : c ≠ ' ') : c ∉ gap := by
  intro member
  exact other (blank c member)

theorem cutAt?_brace : cutAt? ['{'] (gap ++ '{' :: rest) = some (gap, '{' :: rest) := by
  rw [cutAt?_append [] _ (notMem_gap blank (by decide)), ← List.nil_append rest, cutAt?_found]
  simp

theorem cutAt?_arrow : cutAt? "=>".toList (gap ++ '=' :: '>' :: rest) = some (gap, '=' :: '>' :: rest) := by
  have found : cutAt? ['=', '>'] ('=' :: '>' :: rest) = some ([], '=' :: '>' :: rest) := cutAt?_found ['>'] rest
  have cut := cutAt?_append ['>'] ('=' :: '>' :: rest) (notMem_gap blank (by decide : '=' ≠ ' '))
  simpa [found] using cut

theorem bodyFrom?_function :
    bodyFrom? (gap ++ '{' :: (block.text ++ '}' :: rest)) = some block.text := by
  have arrow := cutAt?_append ['>'] ('{' :: (block.text ++ '}' :: rest))
    (notMem_gap blank (by decide : '=' ≠ ' '))
  have word : "=>".toList = ['=', '>'] := by simp
  rw [bodyFrom?, cutAt?_brace blank, word, arrow]
  -- An arrow in the block or after it comes after the brace.
  cases cutAt? ['=', '>'] ('{' :: (block.text ++ '}' :: rest)) with
  | none => simp [block.contents_braces]
  | some found => simp [block.contents_braces]

theorem bodyFrom?_arrow :
    bodyFrom? (gap ++ '=' :: '>' :: ' ' :: '{' :: (block.text ++ '}' :: rest)) = some block.text := by
  have brace : cutAt? ['{'] (gap ++ '=' :: '>' :: ' ' :: '{' :: (block.text ++ '}' :: rest)) =
      some (gap ++ ['=', '>', ' '], '{' :: (block.text ++ '}' :: rest)) := by
    have apart : '{' ∉ gap ++ ['=', '>', ' '] := by
      simpa using notMem_gap blank (by decide : '{' ≠ ' ')
    have cut := cutAt?_append [] ('{' :: ([] ++ (block.text ++ '}' :: rest))) apart
    rw [cutAt?_found] at cut
    simpa using cut
  rw [bodyFrom?, brace, cutAt?_arrow blank]
  simp [block.contents_braces, trim, trimStart, trimEnd, isBlank]

theorem bodyFrom?_expression :
    bodyFrom? (gap ++ '=' :: '>' :: ' ' :: (value.text ++ ';' :: rest)) = some (trim value.text) := by
  have apart : '{' ∉ gap ++ ['=', '>'] := by
    simpa using notMem_gap blank (by decide : '{' ≠ ' ')
  have brace := cutAt?_append [] (' ' :: (value.text ++ ';' :: rest)) apart
  have visible := trim_takeWhile_ne_nil value rest
  rw [List.append_assoc] at brace
  rw [bodyFrom?, cutAt?_arrow blank]
  simp only [List.cons_append, List.nil_append] at brace
  rw [brace]
  cases cutAt? ['{'] (' ' :: (value.text ++ ';' :: rest)) with
  | none => simp [expression_append]
  | some found =>
    have between : gap.length < (gap ++ ['=', '>'] ++ found.1).length := by
      simp only [List.length_append, List.length_cons]
      omega
    rw [← List.isEmpty_eq_false_iff, ← Bool.not_eq_true] at visible
    simp only [Option.map_some, List.drop_succ_cons, List.drop_zero]
    rw [if_pos ⟨between, visible⟩, expression_append]

end Body

end FrontendAtlas.Declaration

import FrontendAtlas.Proofs.Bytes.Bracket
import FrontendAtlas.Proofs.Source.Balance
import FrontendAtlas.Proofs.Text.Case

namespace FrontendAtlas.Source

open FrontendAtlas.Text

def isRouteText (c : Char) : Bool :=
  c ∉ ['?', '$', '\x60', '\\']

structure LiteralText where
  text : List Char
  plain : text.all isRouteText = true

inductive Segment where
  | text (literal : LiteralText)
  /-- The expression may hold anything, nested templates too, as long as its braces are balanced. -/
  | interpolation (expression : List Char) (balanced : Delimiters.braces.Balanced expression)

def MentionsQuery (expression : List Char) : Prop :=
  '?' ∈ expression ∨ ∃ word ∈ ["query", "params", "search"], word.toList <:+: lower expression

instance (expression : List Char) : Decidable (MentionsQuery expression) :=
  inferInstanceAs (Decidable (_ ∨ _))

namespace Segment

def print : Segment → List Char
  | .text literal => literal.text
  | .interpolation expression _ => '$' :: '{' :: (expression ++ ['}'])

def route : Segment → List Char
  | .text literal => literal.text
  | .interpolation expression _ => if MentionsQuery expression then [] else '{' :: (trim expression ++ ['}'])

end Segment

variable {text rest : List Char}

theorem templateBody?_literal (plain : ∀ c ∈ text, c ≠ '\\' ∧ c ≠ '\x60' ∧ c ≠ '$') (rest : List Char) :
    templateBody? 0 (text ++ rest) = (templateBody? 0 rest).map (text ++ ·) := by
  induction text with
  | nil => simp
  | cons c text ih =>
    rw [List.forall_mem_cons] at plain
    obtain ⟨⟨escape, stop, dollar⟩, plain⟩ := plain
    rw [List.cons_append, templateBody?_plain escape stop fun opens => dollar opens.1, ih plain, Option.map_map]
    rfl

theorem routeFrom_plain {c : Char} (query : c ≠ '?') (dollar : c ≠ '$') (rest : List Char) :
    routeFrom .text (c :: rest) = c :: routeFrom .text rest := by
  rw [routeFrom, if_neg query]
  exact fun rest opens => absurd opens dollar

theorem routeFrom_literal (plain : ∀ c ∈ text, c ≠ '?' ∧ c ≠ '$') (rest : List Char) :
    routeFrom .text (text ++ rest) = text ++ routeFrom .text rest := by
  induction text with
  | nil => rfl
  | cons c text ih =>
    rw [List.forall_mem_cons] at plain
    rw [List.cons_append, routeFrom_plain plain.1.1 plain.1.2, ih plain.2]
    rfl

namespace LiteralText

variable (literal : LiteralText)

theorem ne_of_mem {c : Char} (member : c ∈ literal.text) : c ≠ '?' ∧ c ≠ '$' ∧ c ≠ '\x60' ∧ c ≠ '\\' := by
  simpa [isRouteText] using List.all_eq_true.1 literal.plain c member

theorem templateBody?_append (rest : List Char) :
    templateBody? 0 (literal.text ++ rest) = (templateBody? 0 rest).map (literal.text ++ ·) :=
  templateBody?_literal (fun c member => by simp [literal.ne_of_mem member]) rest

theorem routeFrom_append (rest : List Char) :
    routeFrom .text (literal.text ++ rest) = literal.text ++ routeFrom .text rest :=
  routeFrom_literal (fun c member => by simp [literal.ne_of_mem member]) rest

end LiteralText

theorem braces_split?_balanced (balanced : Delimiters.braces.Balanced text) (rest : List Char) :
    Delimiters.braces.split? '{' 0 (text ++ '}' :: rest) = some (text, rest) :=
  Delimiters.body?_append balanced rfl (by decide) rest

theorem buildsQuery_trim (expression : List Char) :
    buildsQuery (trim expression) = true ↔ MentionsQuery expression := by
  have visible : ["query", "params", "search"].all fun word => word.toList.all fun c => !isBlank c := by
    decide +kernel
  simp only [List.all_eq_true, Bool.not_eq_true'] at visible
  have words : (∃ word ∈ ["query", "params", "search"], word.toList <:+: lower (trim expression)) ↔
      ∃ word ∈ ["query", "params", "search"], word.toList <:+: lower expression := by
    apply exists_congr
    intro word
    apply and_congr_right
    intro member
    exact infix_lower_trim (visible word member) expression
  have mark : isBlank '?' = false := by decide
  rw [buildsQuery, Bool.or_eq_true, List.any_eq_true, List.contains_iff_mem, mem_trim_iff mark, MentionsQuery]
  simp only [contains_iff, words]

theorem routeParameter_eq (expression : List Char) : routeParameter expression =
    if MentionsQuery expression then [] else '{' :: (trim expression ++ ['}']) := by
  simp only [routeParameter, ← buildsQuery_trim, List.cons_append]

theorem templateBody?_interpolation (balanced : Delimiters.braces.Balanced text) (rest : List Char) :
    templateBody? 0 ('$' :: '{' :: (text ++ '}' :: rest)) =
      (templateBody? 0 rest).map ('$' :: '{' :: (text ++ ['}']) ++ ·) := by
  have opens : templateBody? 0 ('$' :: '{' :: (text ++ '}' :: rest)) =
      (templateBody? 1 (text ++ '}' :: rest)).map ('$' :: '{' :: ·) := by simp [templateBody?]
  rw [opens, Bytes.templateBody?_succ '{', braces_split?_balanced balanced, Option.bind_some, Option.map_map]
  simp [Function.comp_def]

theorem routeFrom_interpolation (balanced : Delimiters.braces.Balanced text) (rest : List Char) :
    routeFrom .text ('$' :: '{' :: (text ++ '}' :: rest)) = routeParameter text ++ routeFrom .text rest := by
  have inside := Bytes.routeFrom_interpolation '{' (text ++ '}' :: rest) 0 []
  rw [braces_split?_balanced balanced] at inside
  rw [routeFrom]
  exact inside

theorem Segment.templateBody?_append (segment : Segment) (rest : List Char) :
    templateBody? 0 (segment.print ++ rest) = (templateBody? 0 rest).map (segment.print ++ ·) := by
  cases segment with
  | text literal => exact literal.templateBody?_append rest
  | interpolation expression balanced =>
    simpa [print] using templateBody?_interpolation balanced rest

theorem Segment.routeFrom_append (segment : Segment) (rest : List Char) :
    routeFrom .text (segment.print ++ rest) = segment.route ++ routeFrom .text rest := by
  cases segment with
  | text literal => exact literal.routeFrom_append rest
  | interpolation expression balanced =>
    simpa [print, route, routeParameter_eq] using routeFrom_interpolation balanced rest

theorem templateBody?_segments (segments : List Segment) (rest : List Char) :
    templateBody? 0 (segments.flatMap Segment.print ++ rest) =
      (templateBody? 0 rest).map (segments.flatMap Segment.print ++ ·) := by
  induction segments with
  | nil => simp
  | cons segment segments ih =>
    simp [List.flatMap_cons, segment.templateBody?_append, ih, Function.comp_def]

theorem routeFrom_segments (segments : List Segment) (rest : List Char) :
    routeFrom .text (segments.flatMap Segment.print ++ rest) =
      segments.flatMap Segment.route ++ routeFrom .text rest := by
  induction segments with
  | nil => rfl
  | cons segment segments ih => simp [List.flatMap_cons, segment.routeFrom_append, ih]

theorem route_segments (segments : List Segment) :
    route (segments.flatMap Segment.print) = segments.flatMap Segment.route := by
  have whole := routeFrom_segments segments []
  rw [List.append_nil, routeFrom, List.append_nil] at whole
  exact whole

theorem notMem_routeParameter (expression : List Char) : '?' ∉ routeParameter expression := by
  have mark : isBlank '?' = false := by decide
  rw [routeParameter_eq]
  split
  case isTrue => simp
  case isFalse path =>
    have absent : '?' ∉ trim expression := fun member => path (.inl ((mem_trim_iff mark expression).1 member))
    simp [absent]

theorem notMem_routeFrom (mode : RouteMode) (text : List Char) : '?' ∉ routeFrom mode text := by
  fun_induction routeFrom mode text with
  | case1 => simp
  | case2 rest ih => exact ih
  | case3 => simp
  | case4 c rest opens path ih => simp [ih, Ne.symm path]
  | case5 => assumption
  | case6 => simp_all [notMem_routeParameter]
  | case7 => assumption
  | case8 => assumption

/-- A template literal made of segments is read whole wherever it stands, and its route is put together
from the same segments; a question mark outside the interpolations cuts the route off, and no route
holds one. -/
theorem segments_read_and_routed (segments : List Segment) :
    let raw := segments.flatMap Segment.print
    (∀ before after : List Char,
      templateAt? (before ++ '\x60' :: (raw ++ '\x60' :: after)) (byteLength before) = some raw) ∧
      route raw = segments.flatMap Segment.route ∧
      (∀ (literal : LiteralText) (tail : List Char),
        route (raw ++ literal.text ++ '?' :: tail) = route raw ++ literal.text) ∧
      ∀ text, '?' ∉ route text := by
  intro raw
  refine ⟨fun before after => ?_, route_segments segments, fun literal tail => ?_, notMem_routeFrom .text⟩
  · have start : fromByte? (byteLength before) (before ++ '\x60' :: (raw ++ '\x60' :: after)) = some _ :=
      Bytes.fromByte?_eq_some_iff.2 ⟨before, rfl, rfl⟩
    rw [templateAt?, start]
    simp [template?, templateBody?_segments, templateBody?, raw]
  · rw [route_segments, route, List.append_assoc, routeFrom_segments, literal.routeFrom_append]
    simp [routeFrom]

theorem segments_read_and_routed_nested :
    let key : Segment := .interpolation " key ".toList (by decide)
    let query : Segment := .interpolation "q ? `?$\x7bq\x7d` : ''".toList (by decide +kernel)
    let search : Segment := .interpolation "SEARCH".toList (by decide)
    let raw := [.text ⟨"/people/".toList, by decide⟩, key, query, search].flatMap Segment.print
    templateAt? ("é = ".toList ++ '\x60' :: (raw ++ '\x60' :: ";".toList)) 5 = some raw ∧
      route raw = "/people/\x7bkey\x7d".toList ∧
      route (raw ++ "/all".toList ++ '?' :: "page=$\x7bp\x7d".toList) = route raw ++ "/all".toList := by
  intro key query search raw
  obtain ⟨reads, routed, cut, -⟩ :=
    segments_read_and_routed [.text ⟨"/people/".toList, by decide⟩, key, query, search]
  exact ⟨reads "é = ".toList ";".toList, routed.trans (by decide +kernel), cut ⟨"/all".toList, by decide⟩ _⟩

end FrontendAtlas.Source

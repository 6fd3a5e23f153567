import FrontendAtlas.Proofs.Declaration.PatternRest
import FrontendAtlas.Proofs.Source.TemplateRoute

namespace FrontendAtlas.Declaration

open FrontendAtlas.Text FrontendAtlas.Source

def requestLine (helper : String) (quote : Char) (path : List Char) : List Char :=
  "return ".toList ++ (helper.toList ++ '(' :: quote :: (path ++ quote :: ");".toList))

variable {helper : String} {quote : Char} {path : List Char}

theorem hits_requestLine (known : helper ∈ requestHelpers) (visible : isBlank quote = false) (path : List Char) :
    ∃ method later, HttpMethod.ofHelper? helper = some method ∧
      hits helperCall (requestLine helper quote path) =
        ⟨6, method, quote :: (path ++ quote :: ");".toList)⟩ :: later := by
  have first : ∃ method later, HttpMethod.ofHelper? helper = some method ∧
      hits helperCall (requestLine helper quote path) =
        ⟨6, method, trimStart (quote :: (path ++ quote :: ");".toList))⟩ :: later := by
    simp only [requestHelpers, List.mem_cons, List.not_mem_nil, or_false] at known
    -- the first call is found before the path is reached, so the scan computes for any path
    rcases known with rfl | rfl | rfl | rfl | rfl | rfl <;> exact ⟨_, _, rfl, rfl⟩
  rwa [trimStart_cons_of_not_blank visible] at first

theorem quotedArgument?_append (quoted : quote = '\x27' ∨ quote = '\x22') (open_yet : quote ∉ path)
    (rest : List Char) : quotedArgument? (quote :: (path ++ quote :: rest)) = some path := by
  have others : ∀ c ∈ path, decide (c ≠ quote) = true := by
    intro c member
    exact decide_eq_true fun same => open_yet (same ▸ member)
  rw [quotedArgument?, if_pos ⟨quoted, by simp⟩, List.takeWhile_append_of_pos others]
  simp

section Evidence

variable {method : HttpMethod} {later : List (Hit HttpMethod)} {code rest : List Char} {position : Nat}
  (calls : hits helperCall code = ⟨position, method, rest⟩ :: later)
include calls

theorem endpoint?_of_quoted (argument : quotedArgument? rest = some path) :
    endpoint? code = some ⟨method, String.ofList path⟩ := by
  simp [endpoint?, calls, argument]

theorem endpoint?_of_template (unquoted : ∀ call ∈ hits helperCall code, quotedArgument? call.rest = none)
    (argument : template? rest = some path) :
    endpoint? code = some ⟨method, String.ofList (route path)⟩ := by
  have nothing : (hits helperCall code).findSome? (fun call =>
      (quotedArgument? call.rest).map fun text => (⟨call.value, String.ofList text⟩ : Endpoint)) = none := by
    rw [List.findSome?_eq_none_iff]
    intro call member
    rw [unquoted call member, Option.map_none]
  rw [calls] at nothing
  simp [endpoint?, calls, nothing, argument]

end Evidence

theorem quotedArgument?_eq_none {text rest : List Char} (unquoted : '\x27' ∉ text ∧ '\x22' ∉ text)
    (inside : rest <:+ text) : quotedArgument? rest = none := by
  cases rest with
  | nil => rfl
  | cons c rest =>
    have member : c ∈ text := inside.subset List.mem_cons_self
    refine if_neg ?_
    rintro ⟨rfl | rfl, -⟩
    · exact unquoted.1 member
    · exact unquoted.2 member

theorem eq_backtick_of_mem_requestLine (known : helper ∈ requestHelpers)
    (plain : ∀ c ∈ path, isQuote c = false) {c : Char} (quoted : isQuote c = true)
    (member : c ∈ requestLine helper '\x60' path) : c = '\x60' := by
  have frame : ("return ".toList ++ ");".toList).all fun c => !isQuote c := by decide +kernel
  have helpers : requestHelpers.all fun helper => helper.toList.all fun c => !isQuote c := by decide +kernel
  simp only [List.all_append, Bool.and_eq_true, List.all_eq_true, Bool.not_eq_true'] at frame helpers
  rcases List.mem_append.1 member with lead | member
  · simp [frame.1 c lead] at quoted
  rcases List.mem_append.1 member with name | member
  · simp [helpers helper known c name] at quoted
  rcases List.mem_cons.1 member with rfl | member
  · simp [isQuote] at quoted
  rcases List.mem_cons.1 member with same | member
  · exact same
  rcases List.mem_append.1 member with inside | member
  · simp [plain c inside] at quoted
  rcases List.mem_cons.1 member with same | tail
  · exact same
  · simp [frame.2 c tail] at quoted

theorem route_eq_takeWhile (flat : '$' ∉ path) : route path = path.takeWhile (· ≠ '?') := by
  induction path with
  | nil => rfl
  | cons c path ih =>
    rw [List.mem_cons, not_or] at flat
    by_cases query : c = '?'
    · simp [route, routeFrom, query]
    · have step : route (c :: path) = c :: route path := routeFrom_plain query (Ne.symm flat.1) path
      rw [step, ih flat.2, List.takeWhile_cons_of_pos (by simp [query])]

theorem endpoint?_requestLine_quoted (known : helper ∈ requestHelpers) (quoted : quote = '\x27' ∨ quote = '\x22')
    (open_yet : quote ∉ path) : ∃ method, HttpMethod.ofHelper? helper = some method ∧
      endpoint? (requestLine helper quote path) = some ⟨method, String.ofList path⟩ := by
  have visible : isBlank quote = false := by rcases quoted with rfl | rfl <;> decide
  obtain ⟨method, later, named, calls⟩ := hits_requestLine known visible path
  exact ⟨method, named, endpoint?_of_quoted calls (quotedArgument?_append quoted open_yet _)⟩

theorem endpoint?_requestLine_template (known : helper ∈ requestHelpers)
    (plain : ∀ c ∈ path, isQuote c = false ∧ c ≠ '\\' ∧ c ≠ '$') :
    ∃ method, HttpMethod.ofHelper? helper = some method ∧
      endpoint? (requestLine helper '\x60' path) =
        some ⟨method, String.ofList (path.takeWhile (· ≠ '?'))⟩ := by
  have visible : isBlank '\x60' = false := by decide
  obtain ⟨method, later, named, calls⟩ := hits_requestLine known visible path
  have flat : '$' ∉ path := fun member => (plain _ member).2.2 rfl
  have backticks {c : Char} (quoted : isQuote c = true) (other : c ≠ '\x60') :
      c ∉ requestLine helper '\x60' path := fun member =>
    other (eq_backtick_of_mem_requestLine known (fun c member => (plain c member).1) quoted member)
  -- a quoted argument of a call inside the path would come before the template
  have unquoted : ∀ call ∈ hits helperCall (requestLine helper '\x60' path), quotedArgument? call.rest = none := by
    intro call found
    exact quotedArgument?_eq_none ⟨backticks rfl (by decide), backticks rfl (by decide)⟩
      (suffix_of_mem_hits leaves_helperCall found)
  have literal : ∀ c ∈ path, c ≠ '\\' ∧ c ≠ '\x60' ∧ c ≠ '$' := by
    intro c member
    refine ⟨(plain c member).2.1, ?_, (plain c member).2.2⟩
    rintro rfl
    exact absurd (plain _ member).1 (by decide)
  have argument : template? ('\x60' :: (path ++ '\x60' :: ");".toList)) = some path := by
    simp [template?, templateBody?_literal literal, templateBody?]
  exact ⟨method, named, route_eq_takeWhile flat ▸ endpoint?_of_template calls unquoted argument⟩

/-- In single and in double quotes the route is recorded whole, in backticks up to its first question mark.
So the quote style does not matter to the endpoint exactly if there is none. -/
theorem endpoint?_quote_styles (known : helper ∈ requestHelpers)
    (plain : ∀ c ∈ path, isQuote c = false ∧ c ≠ '\\' ∧ c ≠ '$') :
    endpoint? (requestLine helper '\x22' path) = endpoint? (requestLine helper '\x27' path) ∧
      (endpoint? (requestLine helper '\x60' path) = endpoint? (requestLine helper '\x27' path) ↔ '?' ∉ path) ∧
      ∃ method, HttpMethod.ofHelper? helper = some method ∧
        endpoint? (requestLine helper '\x27' path) = some ⟨method, String.ofList path⟩ ∧
        endpoint? (requestLine helper '\x60' path) =
          some ⟨method, String.ofList (path.takeWhile (· ≠ '?'))⟩ := by
  have open_yet {quote : Char} (quoted : isQuote quote = true) : quote ∉ path := fun member => by
    simp [(plain quote member).1] at quoted
  obtain ⟨method, named, single⟩ := endpoint?_requestLine_quoted known (.inl rfl) (open_yet rfl)
  obtain ⟨method', named', double⟩ := endpoint?_requestLine_quoted known (.inr rfl) (open_yet rfl)
  obtain ⟨method'', named'', backtick⟩ := endpoint?_requestLine_template known plain
  cases Option.some.inj (named.symm.trans named')
  cases Option.some.inj (named.symm.trans named'')
  refine ⟨double.trans single.symm, ?_, method, named, single, backtick⟩
  rw [single, backtick]
  have whole : path.takeWhile (· ≠ '?') = path ↔ '?' ∉ path := by
    rw [List.takeWhile_eq_self_iff]
    simp only [decide_eq_true_eq]
    exact ⟨fun others member => others _ member rfl, fun absent c member same => absent (same ▸ member)⟩
  rw [Option.some.injEq, Endpoint.mk.injEq, and_iff_right rfl, String.ofList_inj, whole]

theorem endpoint?_quote_styles_people :
    endpoint? (requestLine "get" '\x60' "/people".toList) = endpoint? (requestLine "get" '\x27' "/people".toList) ∧
      endpoint? (requestLine "get" '\x60' "/people?page=1".toList) ≠
        endpoint? (requestLine "get" '\x27' "/people?page=1".toList) := by
  have known : "get" ∈ requestHelpers := by decide +kernel
  have plain {path : List Char} (checked : path.all fun c => !isQuote c && c ≠ '\\' && c ≠ '$') :
      ∀ c ∈ path, isQuote c = false ∧ c ≠ '\\' ∧ c ≠ '$' := by
    simpa [and_assoc] using checked
  exact ⟨(endpoint?_quote_styles known (plain (by decide +kernel))).2.1.2 (by decide +kernel),
    mt (endpoint?_quote_styles known (plain (by decide +kernel))).2.1.1 (by decide +kernel)⟩

/-- A query that quotes keep is lost in backticks. -/
theorem endpoint?_of_quoted_query :
    endpoint? (requestLine "get" '\x27' "/people?page=1".toList) = some ⟨.get, "/people?page=1"⟩ ∧
      endpoint? (requestLine "get" '\x60' "/people?page=1".toList) = some ⟨.get, "/people"⟩ := by
  decide +kernel

end FrontendAtlas.Declaration

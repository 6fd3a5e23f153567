import FrontendAtlas.Text.Blank
import FrontendAtlas.Text.Case
import FrontendAtlas.Text.Search
import FrontendAtlas.Text.Utf8

namespace FrontendAtlas.Source

/-- The contents of a template literal up to its closing backtick, `braces` deep in an interpolation.
Interpolations are skipped as balanced braces, so a backtick inside one ends nothing. -/
def templateBody? : (braces : Nat) → List Char → Option (List Char)
  | _, [] => none
  | 0, '\\' :: c :: rest => (templateBody? 0 rest).map ('\\' :: c :: ·)
  | 0, '$' :: '{' :: rest => (templateBody? 1 rest).map ('$' :: '{' :: ·)
  | 0, c :: rest => if c = '\x60' then some [] else (templateBody? 0 rest).map (c :: ·)
  | braces + 1, c :: rest =>
    let depth := if c = '{' then braces + 2 else if c = '}' then braces else braces + 1
    (templateBody? depth rest).map (c :: ·)

theorem templateBody?_plain {c : Char} {rest : List Char} (escape : c ≠ '\\') (stop : c ≠ '\x60')
    (plain : ¬ (c = '$' ∧ rest.head? = some '{')) :
    templateBody? 0 (c :: rest) = (templateBody? 0 rest).map (c :: ·) := by
  rw [templateBody?, if_neg stop]
  · exact fun d rest escaped => absurd escaped escape
  · rintro later rfl rfl
    exact plain ⟨rfl, rfl⟩

def template? : List Char → Option (List Char)
  | [] => none
  | c :: rest => if c = '\x60' then templateBody? 0 rest else none

def templateAt? (text : List Char) (offset : Nat) : Option (List Char) := do
  template? (← Text.fromByte? offset text)

def buildsQuery (expression : List Char) : Bool :=
  expression.contains '?' ||
    ["query", "params", "search"].any fun word => Text.contains word.toList (Text.lower expression)

def routeParameter (expression : List Char) : List Char :=
  let name := Text.trim expression
  if buildsQuery name then [] else '{' :: name ++ ['}']

inductive RouteMode where
  | text
  | interpolation (braces : Nat) (expression : List Char)

def routeFrom : RouteMode → List Char → List Char
  | _, [] => []
  | .text, '$' :: '{' :: rest => routeFrom (.interpolation 0 []) rest
  | .text, c :: rest => if c = '?' then [] else c :: routeFrom .text rest
  | .interpolation braces expression, c :: rest =>
    if c = '{' then routeFrom (.interpolation (braces + 1) (c :: expression)) rest
    else if c = '}' then
      match braces with
      | 0 => routeParameter expression.reverse ++ routeFrom .text rest
      | braces + 1 => routeFrom (.interpolation braces (c :: expression)) rest
    else routeFrom (.interpolation braces (c :: expression)) rest

/-- The route of a template's contents: interpolations become `{name}`, those that build a
query string disappear, and the first literal `?` or an interpolation without an end cuts the rest. -/
def route (raw : List Char) : List Char :=
  routeFrom .text raw

end FrontendAtlas.Source

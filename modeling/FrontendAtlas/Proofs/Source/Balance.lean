import FrontendAtlas.Proofs.Text.Search
import FrontendAtlas.Source.Bracket

namespace FrontendAtlas.Source

namespace Delimiters

variable {d : Delimiters}

/-- How deep in delimiters a text ends that begins `depth` deep after `previous`; none if more is closed
in it than was open. -/
def depth? (d : Delimiters) : (previous : Char) → (depth : Nat) → List Char → Option Nat
  | _, depth, [] => some depth
  | previous, depth, c :: rest =>
    if c = d.opener then depth? d c (depth + 1) rest
    else if c = d.closer ∧ d.closesAfter previous then
      match depth with
      | 0 => none
      | depth + 1 => depth? d c depth rest
    else depth? d c depth rest

def Balanced (d : Delimiters) (text : List Char) : Prop :=
  d.depth? d.opener 0 text = some 0

instance (d : Delimiters) (text : List Char) : Decidable (d.Balanced text) :=
  inferInstanceAs (Decidable (_ = _))

theorem split?_append {inner : List Char} {previous : Char} {depth left : Nat}
    (ends : d.depth? previous depth inner = some left) (rest : List Char) :
    d.split? previous depth (inner ++ rest) =
      (d.split? (inner.getLast?.getD previous) left rest).map fun found => (inner ++ found.1, found.2) := by
  fun_induction depth? d previous depth inner with
  | case1 =>
    cases ends
    simp
  | case2 previous depth inner ih =>
    simp [split?, ih ends, Function.comp_def, List.getLast?_cons]
  | case3 => cases ends
  | case4 previous c inner flat closes depth ih =>
    obtain ⟨rfl, closes⟩ := closes
    simp [split?, flat, closes, ih ends, Function.comp_def, List.getLast?_cons]
  | case5 previous depth c inner flat stays ih =>
    simp [split?, flat, stays, ih ends, Function.comp_def, List.getLast?_cons]

theorem body?_append {inner : List Char} (balanced : d.Balanced inner)
    (closes : d.closesAfter (inner.getLast?.getD d.opener) = true) (apart : d.closer ≠ d.opener)
    (rest : List Char) : d.body? (d.opener :: (inner ++ d.closer :: rest)) = some (inner, rest) := by
  simp [body?, split?_append balanced, split?, apart, closes]

theorem split?_append_right {previous : Char} {depth : Nat} {rest : List Char} {found : List Char × List Char}
    (split : d.split? previous depth rest = some found) (more : List Char) :
    d.split? previous depth (rest ++ more) = some (found.1, found.2 ++ more) := by
  fun_induction split? d previous depth rest generalizing found with
  | case1 => cases split
  | case2 previous depth rest ih =>
    obtain ⟨inner, deeper, rfl⟩ := Option.map_eq_some_iff.1 split
    simp [split?, ih deeper]
  | case3 previous c rest flat closes =>
    obtain ⟨rfl, closes⟩ := closes
    cases split
    simp [split?, flat, closes]
  | case4 previous c rest flat closes depth ih =>
    obtain ⟨rfl, closes⟩ := closes
    obtain ⟨inner, deeper, rfl⟩ := Option.map_eq_some_iff.1 split
    simp [split?, flat, closes, ih deeper]
  | case5 previous depth c rest flat stays ih =>
    obtain ⟨inner, deeper, rfl⟩ := Option.map_eq_some_iff.1 split
    simp [split?, flat, stays, ih deeper]

theorem body?_append_right {rest : List Char} {found : List Char × List Char} (read : d.body? rest = some found)
    (more : List Char) : d.body? (rest ++ more) = some (found.1, found.2 ++ more) := by
  cases rest with
  | nil => cases read
  | cons c rest =>
    rw [body?] at read
    split at read
    case isTrue opens => rw [List.cons_append, body?, if_pos opens, split?_append_right read]
    case isFalse => cases read

end Delimiters

/-- How deep in brackets of any kind a text ends that begins `depth` deep; none if more is closed in it
than was open, or if a semicolon stands outside all brackets. -/
def expressionDepth? : (depth : Nat) → List Char → Option Nat
  | depth, [] => some depth
  | depth, c :: rest =>
    if c = '(' ∨ c = '{' ∨ c = '[' then expressionDepth? (depth + 1) rest
    else if c = ')' ∨ c = '}' ∨ c = ']' then
      match depth with
      | 0 => none
      | depth + 1 => expressionDepth? depth rest
    else if c = ';' ∧ depth = 0 then none
    else expressionDepth? depth rest

end FrontendAtlas.Source

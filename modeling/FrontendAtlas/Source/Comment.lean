import FrontendAtlas.Source.Quote

/-! Comments.  A line comment disappears, its newline stays; a block comment becomes one space.
What looks like a comment inside a quoted literal is none. -/

namespace FrontendAtlas.Source

inductive CommentMode where
  | code
  | line
  | block
  | quoted (quote : Char)

def stripFrom : CommentMode → List Char → List Char
  | _, [] => []
  | .code, '/' :: '/' :: rest => stripFrom .line rest
  | .code, '/' :: '*' :: rest => ' ' :: stripFrom .block rest
  | .code, c :: rest => c :: stripFrom (if isQuote c then .quoted c else .code) rest
  | .line, c :: rest => if c = '\n' then c :: stripFrom .code rest else stripFrom .line rest
  | .block, '*' :: '/' :: rest => stripFrom .code rest
  | .block, _ :: rest => stripFrom .block rest
  | .quoted quote, '\\' :: c :: rest => '\\' :: c :: stripFrom (.quoted quote) rest
  | .quoted quote, c :: rest =>
    c :: stripFrom (if breaksLiteral quote c ∨ c = quote then .code else .quoted quote) rest

theorem stripFrom_block {x : List Char} (unclosed : ¬ "*/".toList <:+: x) (rest : List Char) :
    stripFrom .block (x ++ '*' :: '/' :: rest) = stripFrom .code rest := by
  induction x with
  | nil => simp [stripFrom]
  | cons c x ih =>
    have inner : ¬ "*/".toList <:+: x := fun h => unclosed (List.infix_cons h)
    have open_yet (later : List Char) : c = '*' → x ++ '*' :: '/' :: rest ≠ '/' :: later := by
      intro star slash
      cases x with
      | nil => simp at slash
      | cons d x =>
        rw [List.cons_append, List.cons.injEq] at slash
        exact unclosed ⟨[], x, by simp [star, slash.1]⟩
    rw [List.cons_append, ← ih inner, stripFrom]
    intro later star
    exact open_yet later star

theorem stripFrom_line {x : List Char} (line : '\n' ∉ x) (rest : List Char) :
    stripFrom .line (x ++ rest) = stripFrom .line rest := by
  induction x with
  | nil => rfl
  | cons c x ih =>
    rw [List.mem_cons, not_or] at line
    simp [stripFrom, Ne.symm line.1, ih line.2]

def stripComments (text : List Char) : List Char :=
  stripFrom .code text

end FrontendAtlas.Source

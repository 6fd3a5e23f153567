import FrontendAtlas.Proofs.Text.Search
import FrontendAtlas.Source.Comment

namespace FrontendAtlas.Source

open FrontendAtlas.Text

structure CommentPass where
  written : List Char
  mode : CommentMode
  rest : List Char

namespace CommentPass

def next? : CommentPass → Option CommentPass
  | ⟨_, _, []⟩ => none
  | ⟨written, .code, '/' :: '/' :: rest⟩ => some ⟨written, .line, rest⟩
  | ⟨written, .code, '/' :: '*' :: rest⟩ => some ⟨written ++ [' '], .block, rest⟩
  | ⟨written, .code, c :: rest⟩ =>
    some ⟨written ++ [c], if isQuote c then .quoted c else .code, rest⟩
  | ⟨written, .line, c :: rest⟩ =>
    if c = '\n' then some ⟨written ++ [c], .code, rest⟩ else some ⟨written, .line, rest⟩
  | ⟨written, .block, '*' :: '/' :: rest⟩ => some ⟨written, .code, rest⟩
  | ⟨written, .block, _ :: rest⟩ => some ⟨written, .block, rest⟩
  | ⟨written, .quoted quote, '\\' :: c :: rest⟩ => some ⟨written ++ ['\\', c], .quoted quote, rest⟩
  | ⟨written, .quoted quote, c :: rest⟩ =>
    some ⟨written ++ [c], if breaksLiteral quote c ∨ c = quote then .code else .quoted quote, rest⟩

def run? : Nat → CommentPass → Option CommentPass
  | 0, pass => some pass
  | moves + 1, pass => pass.next?.bind (run? moves)

def result (pass : CommentPass) : List Char :=
  pass.written ++ stripFrom pass.mode pass.rest

theorem result_next? {pass later : CommentPass} (move : pass.next? = some later) :
    later.result = pass.result := by
  revert move
  fun_cases next? pass <;> rintro ⟨⟩ <;> simp_all [result, stripFrom]

theorem result_run? {moves : Nat} {pass later : CommentPass} (run : run? moves pass = some later) :
    later.result = pass.result := by
  induction moves generalizing pass with
  | zero => simp_all [run?]
  | succ moves ih =>
    obtain ⟨middle, move, run⟩ := Option.bind_eq_some_iff.1 run
    exact (ih run).trans (result_next? move)

theorem next?_cons_cons (mode : CommentMode) (c d : Char) :
    ∃ output later, ∃ taken ∈ [1, 2],
      (∀ written text, next? ⟨written, mode, c :: d :: text⟩ =
        some ⟨written ++ output, later, (c :: d :: text).drop taken⟩) ∧
      (taken = 1 → ∀ written, next? ⟨written, mode, [c]⟩ = some ⟨written ++ output, later, []⟩) := by
  cases mode with
  | code =>
    by_cases line : c = '/' ∧ d = '/'
    · exact ⟨[], .line, 2, by simp, by simp [next?, line], by simp⟩
    · by_cases block : c = '/' ∧ d = '*'
      · exact ⟨[' '], .block, 2, by simp, by simp [next?, block], by simp⟩
      · exact ⟨[c], if isQuote c then .quoted c else .code, 1, by simp,
          fun written text => by rw [next?] <;> grind, by simp [next?]⟩
  | line =>
    by_cases newline : c = '\n'
    · exact ⟨[c], .code, 1, by simp, by simp [next?, newline], by simp [next?, newline]⟩
    · exact ⟨[], .line, 1, by simp, by simp [next?, newline], by simp [next?, newline]⟩
  | block =>
    by_cases close : c = '*' ∧ d = '/'
    · exact ⟨[], .code, 2, by simp, by simp [next?, close], by simp⟩
    · exact ⟨[], .block, 1, by simp, fun written text => by rw [next?] <;> grind, by simp [next?]⟩
  | quoted quote =>
    by_cases escape : c = '\\'
    · exact ⟨['\\', d], .quoted quote, 2, by simp, by simp [next?, escape], by simp⟩
    · exact ⟨[c], if breaksLiteral quote c ∨ c = quote then .code else .quoted quote, 1, by simp,
        by simp [next?, escape], by simp [next?]⟩

theorem exists_taken {pass later : CommentPass} (move : pass.next? = some later) :
    ∃ taken ≠ [], pass.rest = taken ++ later.rest := by
  revert move
  fun_cases next? pass <;> rintro ⟨⟩
  case case2 => exact ⟨['/', '/'], by simp, rfl⟩
  case case3 => exact ⟨['/', '*'], by simp, rfl⟩
  case case7 => exact ⟨['*', '/'], by simp, rfl⟩
  case case9 c rest => exact ⟨['\\', c], by simp, rfl⟩
  all_goals exact ⟨[_], by simp, rfl⟩

theorem suffix_of_run? {moves : Nat} {pass later : CommentPass} (run : run? moves pass = some later) :
    later.rest <:+ pass.rest := by
  induction moves generalizing pass with
  | zero => simp_all [run?]
  | succ moves ih =>
    obtain ⟨middle, move, run⟩ := Option.bind_eq_some_iff.1 run
    obtain ⟨taken, -, split⟩ := exists_taken move
    rw [split]
    exact (ih run).trans (List.suffix_append _ _)

section Swap

variable {written written' front front' back : List Char} {mode mode' : CommentMode} {mark : Char}

/-- A move that ends in front of a character does not depend on what follows that character, nor on the
character itself if nothing follows. -/
theorem next?_swap (move : next? ⟨written, mode, front ++ mark :: back⟩ =
      some ⟨written', mode', front' ++ mark :: back⟩) :
    (∀ other, next? ⟨written, mode, front ++ mark :: other⟩ = some ⟨written', mode', front' ++ mark :: other⟩) ∧
      next? ⟨written, mode, front⟩ = some ⟨written', mode', front'⟩ := by
  obtain ⟨taken, nonempty, split⟩ := exists_taken move
  rw [← List.append_assoc, List.append_cancel_right_eq] at split
  obtain ⟨c, more, rfl⟩ := List.exists_cons_of_ne_nil nonempty
  -- The second character is the mark or stands before it, so it is the same in both texts.
  obtain ⟨d, tail, second⟩ : ∃ d, ∃ tail : List Char → List Char,
      ∀ text, more ++ front' ++ mark :: text = d :: tail text := by
    cases more ++ front' with
    | nil => exact ⟨mark, id, fun text => rfl⟩
    | cons d more => exact ⟨d, fun text => more ++ mark :: text, fun text => rfl⟩
  obtain ⟨output, later, count, one_or_two, effect, single⟩ := next?_cons_cons mode c d
  have whole (text : List Char) : front ++ mark :: text = c :: d :: tail text := by
    rw [split, List.cons_append, List.cons_append, second]
  rw [whole, effect, ← whole] at move
  simp only [Option.some.injEq, mk.injEq] at move
  obtain ⟨rfl, rfl, rest⟩ := move
  have length : count = (c :: more).length := by
    have lengths := congrArg List.length rest
    simp [split] at lengths one_or_two ⊢
    omega
  constructor
  · intro other
    rw [whole, effect, ← whole, split, length, List.append_assoc, List.drop_left]
  · cases next : more ++ front' with
    | nil =>
      obtain ⟨rfl, rfl⟩ := List.append_eq_nil_iff.1 next
      exact split ▸ single length written
    | cons e after =>
      have same : e = d := by
        have first := second []
        rw [next] at first
        exact (List.cons.inj first).1
      rw [split, List.cons_append, next, same, effect, ← same, ← next, ← List.cons_append, length,
        List.drop_left]

theorem run?_swap {moves : Nat} (run : run? moves ⟨written, mode, front ++ mark :: back⟩ =
      some ⟨written', mode', mark :: back⟩) :
    (∀ other, run? moves ⟨written, mode, front ++ mark :: other⟩ = some ⟨written', mode', mark :: other⟩) ∧
      run? moves ⟨written, mode, front⟩ = some ⟨written', mode', []⟩ := by
  induction moves generalizing written mode front with
  | zero => simp_all [run?]
  | succ moves ih =>
    obtain ⟨⟨written, mode, rest⟩, move, run⟩ := Option.bind_eq_some_iff.1 run
    obtain ⟨front, rfl⟩ := suffix_of_run? run
    obtain ⟨swapped, alone⟩ := next?_swap move
    obtain ⟨runs, runs_alone⟩ := ih run
    constructor
    · intro other
      rw [run?, swapped other, Option.bind_some, runs other]
    · rw [run?, alone, Option.bind_some, runs_alone]

end Swap

end CommentPass

theorem ne_backslash {c : Char} {text : List Char} (unescaped : ∀ d rest, c = '\\' → text = d :: rest → False)
    (nonempty : text ≠ []) : c ≠ '\\' := by
  intro backslash
  obtain ⟨d, rest, split⟩ := List.exists_cons_of_ne_nil nonempty
  exact unescaped d rest backslash split

/-- Between the two parts of a text the pass stands in code, outside literals and comments. -/
def StandsInCode (front back : List Char) : Prop :=
  ∃ moves written, CommentPass.run? moves ⟨[], .code, front ++ back⟩ = some ⟨written, .code, back⟩

inductive SameComment : List Char → List Char → Prop
  | block {x y : List Char} (hx : ¬ "*/".toList <:+: x) (hy : ¬ "*/".toList <:+: y) :
    SameComment ("/*".toList ++ x ++ "*/".toList) ("/*".toList ++ y ++ "*/".toList)
  | line {x y : List Char} (hx : '\n' ∉ x) (hy : '\n' ∉ y) :
    SameComment ("//".toList ++ x) ("//".toList ++ y)

theorem SameComment.stripFrom_code {x y : List Char} (same : SameComment x y) (rest : List Char) :
    stripFrom .code (x ++ rest) = stripFrom .code (y ++ rest) := by
  cases same with
  | block hx hy => simp [stripFrom, stripFrom_block hx, stripFrom_block hy]
  | line hx hy => simp [stripFrom, stripFrom_line hx, stripFrom_line hy]

theorem SameComment.slash {x y : List Char} (same : SameComment x y) :
    ∃ x' y', x = '/' :: x' ∧ y = '/' :: y' := by
  cases same with
  | block hx hy => simp
  | line hx hy => simp

theorem stripComments_of_run {moves : Nat} {front back written : List Char}
    (run : CommentPass.run? moves ⟨[], .code, front ++ back⟩ = some ⟨written, .code, back⟩) :
    stripComments (front ++ back) = written ++ stripFrom .code back :=
  (CommentPass.result_run? run).symm

theorem stripComments_swap {front x y back : List Char} (code : StandsInCode front (x ++ back))
    (same : SameComment x y) :
    stripComments (front ++ x ++ back) = stripComments (front ++ y ++ back) := by
  obtain ⟨moves, written, run⟩ := code
  obtain ⟨x', y', rfl, rfl⟩ := same.slash
  have swapped := (CommentPass.run?_swap run).1 (y' ++ back)
  rw [List.append_assoc, List.append_assoc]
  calc stripComments (front ++ ('/' :: x' ++ back))
    _ = written ++ stripFrom .code ('/' :: x' ++ back) := stripComments_of_run run
    _ = written ++ stripFrom .code ('/' :: y' ++ back) := by rw [same.stripFrom_code]
    _ = stripComments (front ++ ('/' :: y' ++ back)) := (stripComments_of_run swapped).symm

def commentSigns : List String := ["//", "/*"]

theorem stripFrom_eq_self {mode : CommentMode} {text : List Char} (inside : mode ≠ .line ∧ mode ≠ .block)
    (free : Lacks commentSigns text) : stripFrom mode text = text := by
  fun_induction stripFrom mode text with
  | case1 => rfl
  | case2 rest => exact absurd ⟨[], rest, rfl⟩ (free "//" (by simp [commentSigns]))
  | case3 rest => exact absurd ⟨[], rest, rfl⟩ (free "/*" (by simp [commentSigns]))
  | case4 c rest _ _ ih =>
    rw [ih (by split <;> simp) (.of_append [c] free)]
  | case5 | case6 | case7 | case8 => simp at inside
  | case9 quote c rest ih =>
    rw [ih (by simp) (.of_append ['\\', c] free)]
  | case10 quote c rest _ ih =>
    rw [ih (by split <;> simp) (.of_append [c] free)]

theorem stripComments_eq_self {text : List Char} (free : Lacks commentSigns text) : stripComments text = text :=
  stripFrom_eq_self (by simp) free

end FrontendAtlas.Source

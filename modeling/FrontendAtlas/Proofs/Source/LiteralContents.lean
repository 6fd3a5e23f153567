import FrontendAtlas.Proofs.Source.CommentPass

/-! Quoted literals under two passes, one after the other: the first removes comments, the second empties
the literals of what is left.  Wherever the first stands in code, so does the second when it has read what
the first has written.  Both then see a literal begin at the same place, and nothing but its quotes is
left of it. -/

namespace FrontendAtlas.Source

structure PlainContents (quote : Char) (contents : List Char) : Prop where
  open_yet : quote ∉ contents
  unescaped : '\\' ∉ contents
  line : '\n' ∉ contents

theorem PlainContents.tail {quote c : Char} {contents : List Char} (plain : PlainContents quote (c :: contents)) :
    (c ≠ quote ∧ c ≠ '\\' ∧ c ≠ '\n') ∧ PlainContents quote contents := by
  obtain ⟨open_yet, unescaped, line⟩ := plain
  simp only [List.mem_cons, not_or] at open_yet unescaped line
  exact ⟨⟨Ne.symm open_yet.1, Ne.symm unescaped.1, Ne.symm line.1⟩, open_yet.2, unescaped.2, line.2⟩

inductive CommentMode.Matches : CommentMode → BlankMode → Prop
  | code : Matches .code .code
  | line : Matches .line .code
  | block : Matches .block .code
  | template : Matches (.quoted '\x60') .template
  | quoted {quote : Char} (other : quote ≠ '\x60') (escaped : Bool) :
    Matches (.quoted quote) (.quoted quote escaped)

theorem CommentMode.matches_enter (c : Char) :
    CommentMode.Matches (if isQuote c then .quoted c else .code) (.enter c) := by
  rw [BlankMode.enter]
  by_cases backtick : c = '\x60'
  · subst backtick
    exact .template
  · rw [if_neg backtick]
    split
    · exact .quoted backtick false
    · exact .code

def CommentPass.InStep (pass : CommentPass) : Prop :=
  ∃ mode output, pass.mode.Matches mode ∧
    ∀ more, blankFrom .code (pass.written ++ more) = output ++ blankFrom mode more

theorem CommentPass.InStep.extend {written output new emptied : List Char} {mode later : BlankMode}
    (reads : ∀ more, blankFrom .code (written ++ more) = output ++ blankFrom mode more)
    (step : ∀ more, blankFrom mode (new ++ more) = emptied ++ blankFrom later more) (more : List Char) :
    blankFrom .code (written ++ new ++ more) = output ++ emptied ++ blankFrom later more := by
  rw [List.append_assoc, reads, step, List.append_assoc]

theorem CommentPass.inStep_next? {pass later : CommentPass} (move : pass.next? = some later)
    (goesOn : later.rest ≠ []) (step : pass.InStep) : later.InStep := by
  obtain ⟨mode, output, matching, reads⟩ := step
  revert move
  fun_cases next? pass <;> rintro ⟨⟩ <;> dsimp only at matching reads goesOn
  case case2 | case6 | case7 | case8 =>
    cases matching
    exact ⟨.code, output, by constructor, reads⟩
  case case3 =>
    cases matching
    exact ⟨.code, output ++ [' '], .block, InStep.extend reads fun more => rfl⟩
  case case4 c rest line block =>
    cases matching
    exact ⟨.enter c, output ++ [c], CommentMode.matches_enter c, InStep.extend reads fun more => rfl⟩
  case case5 =>
    cases matching
    exact ⟨.code, output ++ ['\n'], .code, InStep.extend reads fun more => rfl⟩
  case case9 written quote c rest =>
    cases matching with
    | template =>
      exact ⟨.template, output ++ ['\\', c], .template, InStep.extend reads fun more => by simp [blankFrom]⟩
    | quoted other escaped =>
      exact ⟨.quoted quote (c == quote), output ++ [], .quoted other _,
        InStep.extend reads fun more => by simp [blankFrom]⟩
  case case10 quote c rest unescaped =>
    have plain : c ≠ '\\' := ne_backslash unescaped goesOn
    cases matching with
    | template =>
      refine ⟨if c = '\x60' then .code else .template, output ++ [c], ?_, InStep.extend reads fun more => ?_⟩
      · by_cases backtick : c = '\x60'
        · simp [backtick, CommentMode.Matches.code]
        · simp [backtick, breaksLiteral, CommentMode.Matches.template]
      · simp [blankFrom, plain]
    | quoted other escaped =>
      by_cases newline : c = '\n'
      · subst newline
        refine ⟨.code, output ++ (BlankMode.leave quote escaped ++ ['\n']), ?_, InStep.extend reads fun more => ?_⟩
        · simp [breaksLiteral, other, CommentMode.Matches.code]
        · simp [blankFrom]
      · by_cases closes : c = quote
        · subst closes
          refine ⟨.code, output ++ [c], ?_, InStep.extend reads fun more => ?_⟩
          · simp [CommentMode.Matches.code]
          · simp [blankFrom, plain, newline]
        · refine ⟨.quoted quote false, output ++ [], ?_, InStep.extend reads fun more => ?_⟩
          · simp [breaksLiteral, newline, closes, CommentMode.Matches.quoted other]
          · simp [blankFrom, plain, newline, closes]

theorem CommentPass.inStep_run? {moves : Nat} {pass later : CommentPass} (run : run? moves pass = some later)
    (goesOn : later.rest ≠ []) (step : pass.InStep) : later.InStep := by
  induction moves generalizing pass with
  | zero =>
    cases run
    exact step
  | succ moves ih =>
    obtain ⟨middle, move, run⟩ := Option.bind_eq_some_iff.1 run
    have unfinished : middle.rest ≠ [] := by
      intro finished
      obtain ⟨taken, split⟩ := suffix_of_run? run
      rw [finished, List.append_eq_nil_iff] at split
      exact goesOn split.2
    exact ih run (inStep_next? move unfinished step)

theorem blankFrom_code_append {text : List Char} (plain : ∀ c ∈ text, isQuote c = false) (rest : List Char) :
    blankFrom .code (text ++ rest) = text ++ blankFrom .code rest := by
  induction text with
  | nil => rfl
  | cons c text ih =>
    rw [List.forall_mem_cons] at plain
    have stays : BlankMode.enter c = .code := by
      have backtick : c ≠ '\x60' := by
        rintro rfl
        cases plain.1
      simp [BlankMode.enter, plain.1, backtick]
    rw [List.cons_append, blankFrom, stays, ih plain.2]
    rfl

section Literal

variable {quote mark : Char} {front contents back : List Char}

theorem CommentPass.written_of_run? {moves : Nat} {written : List Char}
    (run : run? moves ⟨[], .code, front ++ mark :: back⟩ = some ⟨written, .code, mark :: back⟩) :
    written = stripComments front := by
  have alone := result_run? (run?_swap run).2
  simpa [result, stripFrom, stripComments] using alone

theorem stripComments_append (code : StandsInCode front (mark :: back)) (other : List Char) :
    stripComments (front ++ mark :: other) = stripComments front ++ stripComments (mark :: other) := by
  obtain ⟨moves, written, run⟩ := code
  rw [← CommentPass.written_of_run? run]
  exact stripComments_of_run ((CommentPass.run?_swap run).1 other)

theorem blankLiterals_append (code : StandsInCode front (mark :: back)) (other : List Char) :
    blankLiterals (stripComments front ++ other) = blankLiterals (stripComments front) ++ blankLiterals other := by
  obtain ⟨moves, written, run⟩ := code
  have step : CommentPass.InStep ⟨written, .code, mark :: back⟩ :=
    CommentPass.inStep_run? run (by simp) ⟨.code, [], .code, fun more => rfl⟩
  obtain ⟨mode, output, matching, reads⟩ := step
  cases matching
  have emptied : blankFrom .code written = output := by simpa [blankFrom] using reads []
  rw [← CommentPass.written_of_run? run, blankLiterals, blankLiterals, blankLiterals, reads, emptied]

variable (quoted : quote = '\x27' ∨ quote = '\x22')
include quoted

theorem stripFrom_contents (plain : PlainContents quote contents) (rest : List Char) :
    stripFrom (.quoted quote) (contents ++ quote :: rest) = contents ++ quote :: stripFrom .code rest := by
  induction contents with
  | nil => rcases quoted with rfl | rfl <;> simp [stripFrom]
  | cons c contents ih =>
    obtain ⟨⟨inside, unescaped, line⟩, plain⟩ := plain.tail
    simp [stripFrom, unescaped, breaksLiteral, line, inside, ih plain]

theorem blankFrom_contents (plain : PlainContents quote contents) (escaped : Bool) (rest : List Char) :
    blankFrom (.quoted quote escaped) (contents ++ quote :: rest) = quote :: blankFrom .code rest := by
  induction contents generalizing escaped with
  | nil => rcases quoted with rfl | rfl <;> simp [blankFrom]
  | cons c contents ih =>
    obtain ⟨⟨inside, unescaped, line⟩, plain⟩ := plain.tail
    simp [blankFrom, unescaped, line, inside, ih plain]

theorem stripComments_literal (code : StandsInCode front (quote :: back)) (plain : PlainContents quote contents)
    (rest : List Char) : stripComments (front ++ quote :: (contents ++ quote :: rest)) =
      stripComments front ++ quote :: (contents ++ quote :: stripComments rest) := by
  rw [stripComments_append code]
  congr 1
  have opens : stripComments (quote :: (contents ++ quote :: rest)) =
      quote :: stripFrom (.quoted quote) (contents ++ quote :: rest) := by
    rcases quoted with rfl | rfl <;> simp [stripComments, stripFrom, isQuote]
  rw [opens, stripFrom_contents quoted plain]
  rfl

theorem blankLiterals_literal (code : StandsInCode front (quote :: back)) (plain : PlainContents quote contents)
    (rest : List Char) : blankLiterals (stripComments front ++ quote :: (contents ++ quote :: rest)) =
      blankLiterals (stripComments front) ++ quote :: quote :: blankLiterals rest := by
  rw [blankLiterals_append code]
  congr 1
  have opens : blankLiterals (quote :: (contents ++ quote :: rest)) =
      quote :: blankFrom (.quoted quote false) (contents ++ quote :: rest) := by
    rcases quoted with rfl | rfl <;> rfl
  rw [opens, blankFrom_contents quoted plain]
  rfl

end Literal

end FrontendAtlas.Source

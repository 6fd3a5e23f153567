import FrontendAtlas.Declaration.TypeDeclaration
import FrontendAtlas.Proofs.Source.Scan

/-! Type expressions written on one line: brackets are properly nested, quotes come as whole literals
and nothing outside them looks like a comment.  A scanner that passes over such a text keeps the text
and counts its brackets. -/

namespace FrontendAtlas.Declaration

open FrontendAtlas.Text FrontendAtlas.Source

inductive QuoteMark where
  | single
  | double
  deriving DecidableEq

namespace QuoteMark

def char : QuoteMark → Char
  | single => '\x27'
  | double => '\x22'

def ofChar? (c : Char) : Option QuoteMark :=
  if c = '\x27' then some .single else if c = '\x22' then some .double else none

theorem eq_char_of_ofChar? {c : Char} {mark : QuoteMark} (h : ofChar? c = some mark) : c = mark.char := by
  revert h
  fun_cases ofChar? c <;> rintro ⟨⟩
  · assumption
  · assumption

@[simp] theorem isQuote_char (mark : QuoteMark) : isQuote mark.char = true := by
  cases mark <;> rfl

theorem char_eq (mark : QuoteMark) : mark.char = '\x27' ∨ mark.char = '\x22' := by
  cases mark
  · exact .inl rfl
  · exact .inr rfl

theorem not_isBlank_char (mark : QuoteMark) : isBlank mark.char = false := by
  cases mark <;> decide

theorem char_ne (mark : QuoteMark) : ∀ c ∈ ['\\', '\n', '/', '{', '}'], mark.char ≠ c := by
  cases mark <;> simp [char]

end QuoteMark

def isLiteralPart (c : Char) : Bool :=
  c ∉ ['\x27', '\x22', '\\', '{', '}', '\n']

theorem ne_of_isLiteralPart {c d : Char} (part : isLiteralPart c = true)
    (h : d ∈ ['\x27', '\x22', '\\', '{', '}', '\n']) : c ≠ d := by
  rintro rfl
  exact of_decide_eq_true part h

/-- Where a reading of a type expression stands; `due` are the closing brackets still to come, innermost
first. -/
inductive TypeState where
  | code (due : List Char) (previous : Char)
  | literal (due : List Char) (mark : QuoteMark)
  deriving DecidableEq

namespace TypeState

def closer? (c : Char) : Option Char :=
  if c = '{' then some '}' else if c = '(' then some ')' else if c = '[' then some ']'
  else if c = '<' then some '>' else none

def closes (previous c : Char) : Bool :=
  c == '}' || c == ')' || c == ']' || (c == '>' && previous != '=')

/-- What is neither bracket nor quote and stands for itself: semicolons and commas only inside
brackets, no backtick, no newline, and no second character of a comment opening. -/
def isPlain (due : List Char) (previous c : Char) : Bool :=
  c != '\x60' && c != '\n' && !(previous == '/' && (c == '/' || c == '*')) &&
    !(due.isEmpty && (c == ';' || c == ','))

def step? : TypeState → Char → Option TypeState
  | .literal due mark, c =>
    if c = mark.char then some (.code due c)
    else if isLiteralPart c then some (.literal due mark) else none
  | .code due previous, c =>
    match QuoteMark.ofChar? c, closer? c with
    | some mark, _ => some (.literal due mark)
    | none, some closer => some (.code (closer :: due) c)
    | none, none =>
      if closes previous c then if due.head? = some c then some (.code due.tail c) else none
      else if isPlain due previous c then some (.code due c) else none

inductive Step : TypeState → Char → TypeState → Prop
  | leave (due mark) : Step (.literal due mark) mark.char (.code due mark.char)
  | inside (due mark) {c} (other : c ≠ mark.char) (part : isLiteralPart c = true) :
    Step (.literal due mark) c (.literal due mark)
  | enter (due previous mark) : Step (.code due previous) mark.char (.literal due mark)
  | deeper (due previous) {c closer} (opens : closer? c = some closer) :
    Step (.code due previous) c (.code (closer :: due) c)
  | back (due previous) {c} (closing : closes previous c = true) :
    Step (.code (c :: due) previous) c (.code due c)
  | plain (due previous) {c} (unquoted : QuoteMark.ofChar? c = none) (flat : closer? c = none)
    (unclosed : closes previous c = false) (plain : isPlain due previous c = true) :
    Step (.code due previous) c (.code due c)

theorem step_of_step? {s t : TypeState} {c : Char} (h : s.step? c = some t) : Step s c t := by
  revert h
  fun_cases step? s c <;> rintro ⟨⟩
  case case1 due mark => exact .leave due mark
  case case2 due mark other part => exact .inside due mark other part
  case case4 due previous mark quoted =>
    rw [QuoteMark.eq_char_of_ofChar? quoted]
    exact .enter due previous mark
  case case5 due previous _ opens _ => exact .deeper due previous opens
  case case6 due previous _ _ closing innermost =>
    cases due with
    | nil => cases innermost
    | cons closer due =>
      cases innermost
      exact .back due previous closing
  case case8 due previous flat unquoted unclosed plain =>
    exact .plain due previous unquoted flat (by simpa using unclosed) plain

theorem mem_of_closer? {c closer : Char} (opens : closer? c = some closer) :
    (c, closer) ∈ [('{', '}'), ('(', ')'), ('[', ']'), ('<', '>')] := by
  revert opens
  fun_cases closer? c <;> rintro ⟨⟩ <;> subst c <;> decide

theorem mem_of_closes {previous c : Char} (closing : closes previous c = true) :
    c ∈ ['}', ')', ']', '>'] := by
  grind [closes]

theorem isQuote_of_opens {c closer : Char} (opens : closer? c = some closer) : isQuote c = false := by
  have apart : [('{', '}'), ('(', ')'), ('[', ']'), ('<', '>')].any (fun pair => isQuote pair.1) = false := rfl
  simpa using List.any_eq_false.1 apart _ (mem_of_closer? opens)

theorem isQuote_of_closes {previous c : Char} (closing : closes previous c = true) :
    isQuote c = false := by
  have apart : ['}', ')', ']', '>'].any isQuote = false := rfl
  simpa using List.any_eq_false.1 apart c (mem_of_closes closing)

theorem isQuote_of_plain {due : List Char} {previous c : Char} (unquoted : QuoteMark.ofChar? c = none)
    (plain : isPlain due previous c = true) : isQuote c = false := by
  grind [QuoteMark.ofChar?, isPlain, isQuote]

variable {s t : TypeState} {text rest : List Char}

theorem foldlM_cons_eq_some {c : Char} :
    (c :: text).foldlM step? s = some t ↔ ∃ u, s.step? c = some u ∧ text.foldlM step? u = some t := by
  rw [List.foldlM_cons]
  exact Option.bind_eq_some_iff

def due : TypeState → List Char
  | .code due _ => due
  | .literal due _ => due

def mode : TypeState → CommentMode
  | .code _ _ => .code
  | .literal _ mark => .quoted mark.char

theorem no_comment_after_slash {due : List Char} (run : text.foldlM step? (.code due '/') = some t)
    (bound : ∀ c ∈ rest.head?, c ≠ '/' ∧ c ≠ '*') : ∀ c ∈ (text ++ rest).head?, c ≠ '/' ∧ c ≠ '*' := by
  cases text with
  | nil => exact bound
  | cons c text =>
    intro d hd
    cases Option.mem_some.1 hd
    obtain ⟨u, step, -⟩ := foldlM_cons_eq_some.1 run
    constructor <;> rintro rfl <;> simp [step?, QuoteMark.ofChar?, closer?, closes, isPlain] at step

theorem stripFrom_enter (mark : QuoteMark) :
    stripFrom .code (mark.char :: rest) = mark.char :: stripFrom (.quoted mark.char) rest := by
  cases mark <;> simp [stripFrom, QuoteMark.char, isQuote]

theorem stripFrom_leave (mark : QuoteMark) :
    stripFrom (.quoted mark.char) (mark.char :: rest) = mark.char :: stripFrom .code rest := by
  cases mark <;> simp [stripFrom, QuoteMark.char]

theorem stripFrom_inside {mark : QuoteMark} {c : Char} (other : c ≠ mark.char)
    (part : isLiteralPart c = true) :
    stripFrom (.quoted mark.char) (c :: rest) = c :: stripFrom (.quoted mark.char) rest := by
  have escape : c ≠ '\\' := ne_of_isLiteralPart part (by simp)
  have newline : c ≠ '\n' := ne_of_isLiteralPart part (by simp)
  simp [stripFrom, breaksLiteral, escape, newline, other]

theorem stripFrom_run (run : text.foldlM step? s = some t)
    (bound : ∀ c ∈ rest.head?, c ≠ '/' ∧ c ≠ '*') :
    stripFrom s.mode (text ++ rest) = text ++ stripFrom t.mode rest := by
  induction text generalizing s with
  | nil =>
    cases run
    rfl
  | cons c text ih =>
    obtain ⟨u, step, run⟩ := foldlM_cons_eq_some.1 run
    have ih := ih run
    rw [List.cons_append, List.cons_append, ← ih]
    cases step_of_step? step with
    | leave due mark => exact stripFrom_leave mark
    | inside due mark other part => exact stripFrom_inside other part
    | enter due previous mark => exact stripFrom_enter mark
    | deeper due previous opens =>
      apply stripFrom_code_cons (isQuote_of_opens opens)
      rintro rfl
      cases opens
    | back due previous closing =>
      apply stripFrom_code_cons (isQuote_of_closes closing)
      rintro rfl
      cases closing
    | plain due previous unquoted flat unclosed plain =>
      apply stripFrom_code_cons (isQuote_of_plain unquoted plain)
      rintro rfl
      exact no_comment_after_slash run bound

theorem braces_split?_step {c p : Char} (step : Step s c t) (depth : Nat) :
    Delimiters.braces.split? p (depth + s.due.count '}') (c :: rest) =
      (Delimiters.braces.split? c (depth + t.due.count '}') rest).map
        fun (inner, after) => (c :: inner, after) := by
  cases step with
  | leave due mark => exact braces_split?_other (by simp [QuoteMark.char_ne])
  | inside due mark other part =>
    exact braces_split?_other ⟨ne_of_isLiteralPart part (by simp), ne_of_isLiteralPart part (by simp)⟩
  | enter due previous mark => exact braces_split?_other (by simp [QuoteMark.char_ne])
  | deeper due previous opens =>
    have pair := mem_of_closer? opens
    simp only [List.mem_cons, Prod.mk.injEq, List.not_mem_nil, or_false] at pair
    rcases pair with ⟨rfl, rfl⟩ | ⟨rfl, rfl⟩ | ⟨rfl, rfl⟩ | ⟨rfl, rfl⟩
    · simp [Delimiters.split?, Delimiters.braces, TypeState.due, Nat.add_assoc]
    all_goals exact braces_split?_other (by decide)
  | back due previous closing =>
    have known := mem_of_closes closing
    simp only [List.mem_cons, List.not_mem_nil, or_false] at known
    rcases known with rfl | rfl | rfl | rfl
    · simp [Delimiters.split?, Delimiters.braces, Delimiters.closesAfter, TypeState.due, ← Nat.add_assoc]
    all_goals exact braces_split?_other (by decide)
  | plain due previous unquoted flat unclosed plain =>
    exact braces_split?_other (by grind [closer?, closes])

theorem braces_split?_run (run : text.foldlM step? s = some t) (depth : Nat) (p q : Char) :
    Delimiters.braces.split? p (depth + s.due.count '}') (text ++ rest) =
      (Delimiters.braces.split? q (depth + t.due.count '}') rest).map
        fun (inner, after) => (text ++ inner, after) := by
  induction text generalizing s p with
  | nil =>
    cases run
    simp [braces_split?_previous p q]
  | cons c text ih =>
    obtain ⟨u, step, run⟩ := foldlM_cons_eq_some.1 run
    rw [List.cons_append, braces_split?_step (step_of_step? step), ih run c, Option.map_map]
    rfl

inductive Agrees : TypeState → PieceState → Prop
  | code {due previous} : Agrees (.code due previous) ⟨due.length, previous, none⟩
  | literal {due mark previous} (unescaped : previous ≠ '\\') :
    Agrees (.literal due mark) ⟨due.length, previous, some mark.char⟩

theorem depthStep_of_opens {previous c closer : Char} (opens : closer? c = some closer) :
    PieceState.depthStep previous c = 1 := by
  grind [closer?, PieceState.depthStep]

theorem depthStep_of_closes {previous c : Char} (closing : closes previous c = true) :
    PieceState.depthStep previous c = -1 := by
  grind [closes, PieceState.depthStep]

theorem depthStep_of_flat {previous c : Char} (flat : closer? c = none)
    (unclosed : closes previous c = false) : PieceState.depthStep previous c = 0 := by
  grind [closer?, closes, PieceState.depthStep]

theorem next_code {due later : List Char} {previous c : Char} (unquoted : isQuote c = false)
    (depth : (later.length : Int) = due.length + PieceState.depthStep previous c) :
    (code later c).Agrees (PieceState.next ⟨due.length, previous, none⟩ c) := by
  simp only [PieceState.next, unquoted, Bool.false_eq_true, if_false, ← depth]
  exact .code

theorem agrees_step {state : PieceState} {c : Char} (agrees : s.Agrees state) (step : Step s c t) :
    state.ends c = false ∧ t.Agrees (state.next c) := by
  cases step with
  | leave due mark =>
    cases agrees with | literal unescaped =>
    refine ⟨rfl, ?_⟩
    simp only [PieceState.next, unescaped, ne_eq, not_false_eq_true, and_self, if_true]
    exact .code
  | inside due mark other part =>
    cases agrees with | literal unescaped =>
    refine ⟨rfl, ?_⟩
    simp only [PieceState.next, other, false_and, if_false]
    exact .literal (ne_of_isLiteralPart part (by simp))
  | enter due previous mark =>
    cases agrees with | code =>
    constructor
    · cases mark <;> rfl
    · have flat : PieceState.depthStep previous mark.char = 0 := by cases mark <;> rfl
      simp only [PieceState.next, QuoteMark.isQuote_char, if_true, flat, Int.add_zero]
      exact .literal (mark.char_ne _ (by simp))
  | deeper due previous opens =>
    cases agrees with | code =>
    refine ⟨by grind [PieceState.ends, closer?], ?_⟩
    exact next_code (isQuote_of_opens opens) (by rw [depthStep_of_opens opens]; rfl)
  | back due previous closing =>
    cases agrees with | code =>
    refine ⟨by grind [PieceState.ends, closes], ?_⟩
    exact next_code (isQuote_of_closes closing) (by rw [depthStep_of_closes closing]; grind)
  | plain due previous unquoted flat unclosed plain =>
    cases agrees with | code =>
    refine ⟨?_, next_code (isQuote_of_plain unquoted plain) (by simp [depthStep_of_flat flat unclosed])⟩
    -- A semicolon or comma stands inside a bracket, so the depth is positive.
    cases due with
    | nil => grind [PieceState.ends, isPlain]
    | cons closer due => grind [PieceState.ends, isPlain]

theorem piecesFrom_ne_nil (state : PieceState) : piecesFrom state text ≠ [] := by
  fun_cases piecesFrom state text <;> simp

theorem piecesFrom_cons {state : PieceState} {c : Char} (goes : state.ends c = false) :
    piecesFrom state (c :: rest) = (piecesFrom (state.next c) rest).modifyHead (c :: ·) := by
  rw [piecesFrom]
  cases pieces : piecesFrom (state.next c) rest with
  | nil => exact absurd pieces (piecesFrom_ne_nil _)
  | cons piece more => simp [goes]

theorem piecesFrom_run {state : PieceState} (agrees : s.Agrees state)
    (run : text.foldlM step? s = some t) :
    ∃ state', t.Agrees state' ∧
      piecesFrom state (text ++ rest) = (piecesFrom state' rest).modifyHead (text ++ ·) := by
  induction text generalizing s state with
  | nil =>
    cases run
    refine ⟨state, agrees, ?_⟩
    rw [List.nil_append]
    cases piecesFrom state rest <;> rfl
  | cons c text ih =>
    obtain ⟨u, step, run⟩ := foldlM_cons_eq_some.1 run
    have ⟨goes, agrees⟩ := agrees_step agrees (step_of_step? step)
    obtain ⟨state', agrees', pieces⟩ := ih agrees run
    refine ⟨state', agrees', ?_⟩
    rw [List.cons_append, piecesFrom_cons goes, pieces, List.modifyHead_modifyHead]
    rfl

theorem Step.ne_newline {c : Char} (step : Step s c t) : c ≠ '\n' := by
  cases step with
  | leave due mark => exact mark.char_ne _ (by simp)
  | inside due mark other part => exact ne_of_isLiteralPart part (by simp)
  | enter due previous mark => exact mark.char_ne _ (by simp)
  | deeper due previous opens => grind [closer?]
  | back due previous closing => grind [closes]
  | plain due previous unquoted flat unclosed plain => grind [isPlain]

theorem newline_notMem_of_run (run : text.foldlM step? s = some t) : '\n' ∉ text := by
  induction text generalizing s with
  | nil => simp
  | cons c text ih =>
    obtain ⟨u, step, run⟩ := foldlM_cons_eq_some.1 run
    rw [List.mem_cons, not_or]
    exact ⟨(step_of_step? step).ne_newline.symm, ih run⟩

end TypeState

end FrontendAtlas.Declaration

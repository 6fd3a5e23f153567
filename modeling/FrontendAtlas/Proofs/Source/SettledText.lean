import FrontendAtlas.Proofs.Source.LiteralContents
import FrontendAtlas.Proofs.Source.TemplateIntegrity

/-! Texts that the two lexical passes leave as they are: those without comments, and those whose single-
and double-quoted literals are empty.  What a pass writes is such a text, so running it again changes
nothing; and emptying the literals of a text without comments brings no comment about. -/

namespace FrontendAtlas.Source

variable {quote : Option Char} {text : List Char}

/-- The text holds no comment, if it begins in code or in the literal that `quote` opened. -/
inductive CommentFree : (quote : Option Char) → List Char → Prop
  | nil {quote : Option Char} : CommentFree quote []
  | code {c : Char} {text : List Char} : (c = '/' → ∀ d ∈ text.head?, d ≠ '/' ∧ d ≠ '*') →
      CommentFree (if isQuote c then some c else none) text → CommentFree none (c :: text)
  | escape {quote c : Char} {text : List Char} :
      CommentFree (some quote) text → CommentFree (some quote) ('\\' :: c :: text)
  | inside {quote c : Char} {text : List Char} : (c = '\\' → text = []) →
      CommentFree (if breaksLiteral quote c ∨ c = quote then none else some quote) text →
      CommentFree (some quote) (c :: text)

def CommentMode.quote? : CommentMode → Option Char
  | .quoted quote => some quote
  | _ => none

theorem CommentFree.stripFrom_eq (free : CommentFree quote text) : stripFrom (.outside quote) text = text := by
  induction free with
  | nil => simp [stripFrom]
  | @code c text apart rest ih =>
    rw [stripFrom_outside_none, ih]
    · rintro more slash rfl
      exact (apart slash '/' rfl).1 rfl
    · rintro more slash rfl
      exact (apart slash '*' rfl).2 rfl
  | escape rest ih =>
    rw [CommentMode.outside] at ih ⊢
    rw [stripFrom, ih]
  | @inside quote c text plain rest ih =>
    by_cases escape : c = '\\'
    · rw [plain escape]
      simp [CommentMode.outside, stripFrom]
    · rw [stripFrom_outside_some escape, ih]

theorem head_stripFrom_code (line : ∀ more, text ≠ '/' :: more) (block : ∀ more, text ≠ '*' :: more) :
    ∀ d ∈ (stripFrom .code text).head?, d ≠ '/' ∧ d ≠ '*' := by
  cases text with
  | nil => simp [stripFrom]
  | cons d text =>
    have slash : d ≠ '/' := fun same => line text (by rw [same])
    have star : d ≠ '*' := fun same => block text (by rw [same])
    simp [stripFrom, slash, star]

theorem commentFree_stripFrom (mode : CommentMode) (text : List Char) :
    CommentFree mode.quote? (stripFrom mode text) := by
  fun_induction stripFrom mode text with
  | case1 => exact .nil
  | case2 rest ih => exact ih
  | case3 rest ih => exact .code (by simp) ih
  | case4 c rest line block ih =>
    apply CommentFree.code
    · rintro rfl
      exact head_stripFrom_code (fun more => line more rfl) (fun more => block more rfl)
    · split <;> simp_all [CommentMode.quote?]
  | case5 rest ih => exact .code (by simp) ih
  | case6 c rest newline ih => exact ih
  | case7 rest ih => exact ih
  | case8 c rest unclosed ih => exact ih
  | case9 quote c rest ih => exact .escape ih
  | case10 quote c rest unescaped ih =>
    apply CommentFree.inside
    · rintro rfl
      cases rest with
      | nil => simp [stripFrom]
      | cons d rest => exact (unescaped d rest rfl rfl).elim
    · split <;> simp_all [CommentMode.quote?]

theorem stripComments_eq_self_iff : stripComments text = text ↔ CommentFree none text := by
  constructor
  · intro same
    rw [← same]
    exact commentFree_stripFrom .code text
  · exact CommentFree.stripFrom_eq

theorem unescaped_of_last {c : Char} (last : c = '\\' → text = []) (d : Char) (more : List Char) :
    c = '\\' → text = d :: more → False := by
  intro escape split
  rw [last escape] at split
  cases split

/-- The single- and double-quoted literals of the text are empty, if it begins in code or in the literal
that `quote` opened.  An unclosed literal ends with its line. -/
inductive Emptied : (quote : Option Char) → List Char → Prop
  | nil {quote : Option Char} : Emptied quote []
  | code {c : Char} {text : List Char} :
      Emptied (if isQuote c then some c else none) text → Emptied none (c :: text)
  | escape {c : Char} {text : List Char} :
      Emptied (some '\x60') text → Emptied (some '\x60') ('\\' :: c :: text)
  | template {c : Char} {text : List Char} : (c = '\\' → text = []) →
      Emptied (if c = '\x60' then none else some '\x60') text → Emptied (some '\x60') (c :: text)
  | close {quote : Char} {text : List Char} : quote = '\x27' ∨ quote = '\x22' →
      Emptied none text → Emptied (some quote) (quote :: text)
  | line {quote : Char} {text : List Char} : quote = '\x27' ∨ quote = '\x22' →
      Emptied none text → Emptied (some quote) ('\n' :: text)

namespace BlankMode

def outset : Option Char → BlankMode
  | none => .code
  | some quote => .enter quote

def quote? : BlankMode → Option Char
  | .code => none
  | .quoted quote _ => some quote
  | .template => some '\x60'

def Sound : BlankMode → Prop
  | .quoted quote _ => quote = '\x27' ∨ quote = '\x22'
  | _ => True

theorem enter_cases (c : Char) :
    (c = '\x27' ∨ c = '\x22') ∧ isQuote c = true ∧ enter c = .quoted c false ∨
      c = '\x60' ∧ isQuote c = true ∧ enter c = .template ∨ isQuote c = false ∧ enter c = .code := by
  by_cases template : c = '\x60'
  · subst template
    exact .inr (.inl ⟨rfl, rfl, rfl⟩)
  · cases quoted : isQuote c with
    | false => exact .inr (.inr ⟨rfl, by simp [enter, template, quoted]⟩)
    | true =>
      have mark : c = '\x27' ∨ c = '\x22' := by simpa [isQuote, template] using quoted
      exact .inl ⟨mark, rfl, by simp [enter, template, quoted]⟩

theorem sound_enter (c : Char) : (enter c).Sound := by
  obtain ⟨mark, -, mode⟩ | ⟨-, -, mode⟩ | ⟨-, mode⟩ := enter_cases c <;> rw [mode]
  · exact mark
  · trivial
  · trivial

theorem quote?_enter (c : Char) : (enter c).quote? = if isQuote c then some c else none := by
  obtain ⟨-, quoted, mode⟩ | ⟨rfl, quoted, mode⟩ | ⟨quoted, mode⟩ := enter_cases c <;> rw [mode, quoted] <;> rfl

theorem outset_enter (c : Char) : outset (if isQuote c then some c else none) = enter c := by
  obtain ⟨-, quoted, mode⟩ | ⟨-, quoted, mode⟩ | ⟨quoted, mode⟩ := enter_cases c <;> rw [mode, quoted]
  · exact mode
  · exact mode
  · rfl

theorem blankFrom_outset_nil (quote : Option Char) : blankFrom (outset quote) [] = [] := by
  cases quote with
  | none => rfl
  | some c =>
    obtain ⟨-, -, mode⟩ | ⟨-, -, mode⟩ | ⟨-, mode⟩ := enter_cases c <;> rw [outset, mode] <;> rfl

end BlankMode

theorem Emptied.blankFrom_eq (emptied : Emptied quote text) : blankFrom (.outset quote) text = text := by
  induction emptied with
  | nil => exact BlankMode.blankFrom_outset_nil _
  | code rest ih =>
    rw [BlankMode.outset_enter] at ih
    rw [BlankMode.outset, blankFrom, ih]
  | escape rest ih =>
    change blankFrom .template _ = _ at ih ⊢
    rw [blankFrom, ih]
  | @template c text plain rest ih =>
    have mode : BlankMode.outset (if c = '\x60' then none else some '\x60') =
        if c = '\x60' then .code else .template := by split <;> rfl
    rw [mode] at ih
    change blankFrom .template (c :: text) = c :: text
    rw [blankFrom, ih]
    exact unescaped_of_last plain
  | close mark rest ih =>
    change blankFrom .code _ = _ at ih
    rcases mark with rfl | rfl <;> simp [BlankMode.outset, BlankMode.enter, isQuote, blankFrom, ih]
  | line mark rest ih =>
    change blankFrom .code _ = _ at ih
    rcases mark with rfl | rfl <;> simp [BlankMode.outset, BlankMode.enter, BlankMode.leave, isQuote, blankFrom, ih]

theorem emptied_blankFrom {mode : BlankMode} (sound : mode.Sound) (text : List Char) :
    Emptied mode.quote? (blankFrom mode text) := by
  fun_induction blankFrom mode text with
  | case1 quote escaped =>
    cases escaped with
    | false => exact .nil
    | true => exact .close sound .nil
  | case2 mode other => exact .nil
  | case3 c rest ih =>
    apply Emptied.code
    rw [← BlankMode.quote?_enter]
    exact ih (BlankMode.sound_enter c)
  | case4 c rest ih => exact .escape (ih trivial)
  | case5 c rest plain ih =>
    apply Emptied.template
    · rintro rfl
      cases rest with
      | nil => simp [blankFrom]
      | cons d rest => exact (plain d rest rfl rfl).elim
    · split <;> simp_all [BlankMode.quote?, BlankMode.Sound]
  | case6 quote escaped c rest ih => exact ih sound
  | case7 quote escaped rest plain ih =>
    cases escaped with
    | false => exact .line sound (ih trivial)
    | true => exact .close sound (.code (ih trivial))
  | case8 escaped quote rest plain line ih => exact .close sound (ih trivial)
  | case9 quote escaped c rest plain line inside ih => exact ih sound

theorem blankLiterals_eq_self_iff : blankLiterals text = text ↔ Emptied none text := by
  constructor
  · intro same
    rw [← same]
    have sound : BlankMode.code.Sound := trivial
    exact emptied_blankFrom sound text
  · exact Emptied.blankFrom_eq

theorem head?_blankFrom_code (text : List Char) : (blankFrom .code text).head? = text.head? := by
  cases text <;> rfl

theorem CommentFree.template_cons {c : Char} (last : c = '\\' → text = [])
    (rest : CommentFree (if c = '\x60' then none else some '\x60')
      (blankFrom (if c = '\x60' then .code else .template) text)) :
    CommentFree (some '\x60') (blankFrom .template (c :: text)) := by
  rw [blankFrom]
  · apply CommentFree.inside
    · intro escape
      rw [last escape]
      split <;> rfl
    · simpa [breaksLiteral] using rest
  · exact unescaped_of_last last

section Quoted

variable {mark : Char} (quoted : mark = '\x27' ∨ mark = '\x22')
include quoted

theorem CommentFree.close (free : CommentFree none text) : CommentFree (some mark) (mark :: text) := by
  apply CommentFree.inside
  · rcases quoted with rfl | rfl <;> simp
  · simpa using free

theorem CommentFree.leave (free : CommentFree none text) (escaped : Bool) :
    CommentFree (some mark) (BlankMode.leave mark escaped ++ '\n' :: text) := by
  cases escaped with
  | false =>
    apply CommentFree.inside
    · simp
    · rcases quoted with rfl | rfl <;> simpa [breaksLiteral] using free
  | true => exact .close quoted (.code (by simp) free)

theorem CommentFree.quoted_cons {c : Char} (last : c = '\\' → text = []) (escaped : Bool)
    (ends : breaksLiteral mark c ∨ c = mark → CommentFree none (blankFrom .code text))
    (stays : ¬ (breaksLiteral mark c ∨ c = mark) → CommentFree (some mark) (blankFrom (.quoted mark false) text)) :
    CommentFree (some mark) (blankFrom (.quoted mark escaped) (c :: text)) := by
  have breaks : breaksLiteral mark c = true ↔ c = '\n' := by
    rcases quoted with rfl | rfl <;> simp [breaksLiteral]
  rw [breaks] at ends stays
  rw [blankFrom]
  · split
    case isTrue newline => exact .leave quoted (ends (.inl newline)) escaped
    case isFalse inLine =>
      split
      case isTrue close => exact .close quoted (ends (.inr close))
      case isFalse inside => exact stays (not_or.2 ⟨inLine, inside⟩)
  · exact unescaped_of_last last

end Quoted

theorem commentFree_blankFrom (free : CommentFree quote text) {mode : BlankMode} (sound : mode.Sound)
    (same : mode.quote? = quote) : CommentFree quote (blankFrom mode text) := by
  -- The pass that empties literals is always in the literal in which the other pass would be.
  induction free generalizing mode with
  | nil =>
    cases mode with
    | code | template => exact .nil
    | quoted mark escaped =>
      subst same
      cases escaped with
      | false => exact .nil
      | true => exact .close sound .nil
  | @code c text apart rest ih =>
    cases mode with
    | template | quoted => cases same
    | code =>
      apply CommentFree.code
      · rintro rfl
        change ∀ d ∈ (blankFrom .code text).head?, _
        rw [head?_blankFrom_code]
        exact apart rfl
      · exact ih (BlankMode.sound_enter c) (BlankMode.quote?_enter c)
  | @escape mark c text rest ih =>
    cases mode with
    | code => cases same
    | template =>
      rw [blankFrom]
      exact .escape (ih sound same)
    | quoted other escaped =>
      cases same
      rw [blankFrom]
      exact ih sound rfl
  | @inside mark c text last rest ih =>
    cases mode with
    | code => cases same
    | template =>
      cases same
      apply CommentFree.template_cons last
      by_cases close : c = '\x60'
      · rw [if_pos (.inr close)] at ih
        rw [if_pos close, if_pos close]
        exact ih trivial rfl
      · rw [if_neg (by simpa [breaksLiteral] using close)] at ih
        rw [if_neg close, if_neg close]
        exact ih trivial rfl
    | quoted other escaped =>
      cases same
      apply CommentFree.quoted_cons sound last escaped
      · intro ends
        rw [if_pos ends] at ih
        exact ih trivial rfl
      · intro stays
        rw [if_neg stays] at ih
        exact ih sound rfl

/-- Neither pass finds anything to do in what it has written itself, and the one that removes comments
finds nothing after the other either. -/
theorem passes_settle (text : List Char) :
    stripComments (stripComments text) = stripComments text ∧
      blankLiterals (blankLiterals text) = blankLiterals text ∧
      stripComments (blankLiterals (stripComments text)) = blankLiterals (stripComments text) := by
  have free : CommentFree none (stripComments text) := commentFree_stripFrom .code text
  have sound : BlankMode.code.Sound := trivial
  refine ⟨?_, ?_, ?_⟩
  · exact stripComments_eq_self_iff.2 free
  · exact blankLiterals_eq_self_iff.2 (emptied_blankFrom sound text)
  · exact stripComments_eq_self_iff.2 (commentFree_blankFrom free sound rfl)

end FrontendAtlas.Source

import FrontendAtlas.Proofs.Bytes.Boundary
import FrontendAtlas.Source.Quote

/-! Passes over the bytes of quoted literals.  A backslash skips two bytes, which may end
inside a character: what is left of it is passed over, so a literal ends between characters all the
same. -/

namespace FrontendAtlas.Bytes

open FrontendAtlas.Text FrontendAtlas.Source

variable {text mid rest : List Char} {c quote : Char} {i j : Nat}

theorem ascii_of_isQuote (quoted : isQuote quote = true) : Ascii quote ∧ quote ≠ '\\' := by
  simp only [isQuote, Bool.or_eq_true, beq_iff_eq] at quoted
  rcases quoted with (rfl | rfl) | rfl <;> decide

theorem ne_slash_of_isQuote (quoted : isQuote quote = true) : quote ≠ '/' := by
  rintro rfl
  simp [isQuote] at quoted

theorem not_isQuote_of_wide (wide : ¬ Ascii c) : isQuote c = false := by
  cases quoted : isQuote c with
  | false => rfl
  | true => exact absurd (ascii_of_isQuote quoted).1 wide

def literalPass (text : List Char) (quote : Char) : Pass Unit Nat where
  step c i _ :=
    if c = '\\' then .ok (.next (i + 2) ())
    else if c = '\n' ∧ quote ≠ '\x60' then .ok (.done i)
    else if c = quote then .ok (.done (i + 1))
    else .ok (.next (i + 1) ())
  finish i _ := .ok (min (bytes text).length i)

def skipLiteral (text : List Char) (start : Nat) (quote : Char) : Checked Nat :=
  (literalPass text quote).run text (start + 1) ()

def cutLiteral (quote : Char) : List Char → List Char × List Char
  | [] => ([], [])
  | '\\' :: c :: rest => ('\\' :: c :: (cutLiteral quote rest).1, (cutLiteral quote rest).2)
  | c :: rest =>
    if breaksLiteral quote c then ([], c :: rest)
    else if c = quote then ([c], rest)
    else (c :: (cutLiteral quote rest).1, (cutLiteral quote rest).2)

theorem cutLiteral_append (quote : Char) (text : List Char) :
    (cutLiteral quote text).1 ++ (cutLiteral quote text).2 = text := by
  fun_induction cutLiteral quote text <;> simp_all

theorem cutLiteral_suffix (quote : Char) (text : List Char) : (cutLiteral quote text).2 <:+ text :=
  ⟨_, cutLiteral_append quote text⟩

theorem literalPass_passes (text : List Char) (ascii : Ascii quote) :
    (literalPass text quote).Passes () () := by
  intro b i wide
  simp [literalPass, ne_of_wide wide, Ascii, ascii]

theorem run_literalPass (quoted : isQuote quote = true) (place : At text i rest) :
    (literalPass text quote).run text i () = .ok (i + byteLength (cutLiteral quote rest).1) := by
  obtain ⟨ascii, notEscape⟩ := ascii_of_isQuote quoted
  have passes := literalPass_passes text ascii
  fun_induction cutLiteral quote rest generalizing i with
  | case1 =>
    rw [Pass.run_of_end place]
    have size := place.size
    simp only [literalPass, length_bytes, byteLength] at size ⊢
    rw [Nat.min_eq_right (by omega)]
    rfl
  | case2 c rest ih =>
    -- The second byte that is skipped may be only the first one of its character.
    have escape : (literalPass text quote).step '\\' i () = .ok (.next (i + 1 + 1) ()) := rfl
    have after : At text (i + 1) (c :: rest) := place.succ (by decide)
    rw [Pass.run_of_next (place.byte?_ascii (by decide)) escape (by omega),
      Pass.run_succ after passes, ih after.next]
    simp [byteLength, utf8Size_of_ascii (c := '\\') (by decide), Nat.add_assoc]
  | case3 c rest _ breaks =>
    simp only [breaksLiteral, Bool.and_eq_true, beq_iff_eq, bne_iff_ne] at breaks
    obtain ⟨rfl, other⟩ := breaks
    have stop : (literalPass text quote).step '\n' i () = .ok (.done i) := by
      simp [literalPass, other]
    exact Pass.run_of_done (place.byte?_ascii (by decide)) stop
  | case4 rest _ goesOn =>
    have stop : (literalPass text quote).step quote i () = .ok (.done (i + 1)) := by
      simp only [breaksLiteral, Bool.and_eq_true, beq_iff_eq, bne_iff_ne] at goesOn
      simp [literalPass, notEscape, goesOn]
    rw [Pass.run_of_done (place.byte?_ascii ascii) stop]
    simp [byteLength, utf8Size_of_ascii ascii]
  | case5 c rest unescaped goesOn open_ ih =>
    by_cases escape : c = '\\'
    · -- A backslash at the very end skips past it.
      subst escape
      have last : rest = [] := by
        cases rest with
        | nil => rfl
        | cons d rest => exact (unescaped d rest rfl rfl).elim
      subst last
      have skip : (literalPass text quote).step '\\' i () = .ok (.next (i + 2) ()) := rfl
      have size : byteLength text = i + 1 := (place.succ (by decide)).size.symm
      rw [Pass.run_of_next (place.byte?_ascii (by decide)) skip (by omega),
        Pass.run_of_le (by omega)]
      simp only [literalPass, length_bytes, size]
      rw [Nat.min_eq_left (by omega)]
      rfl
    · have plain : (literalPass text quote).step c i () = .ok (.next (i + 1) ()) := by
        simp only [breaksLiteral, Bool.and_eq_true, beq_iff_eq, bne_iff_ne] at goesOn
        simp [literalPass, escape, goesOn, open_]
      rw [Pass.run_plain place passes fun _ => plain, ih place.next]
      simp [byteLength, Nat.add_assoc]

theorem skipLiteral_eq (quoted : isQuote quote = true) (place : At text i (quote :: rest)) :
    skipLiteral text i quote = .ok (i + 1 + byteLength (cutLiteral quote rest).1) :=
  run_literalPass quoted (place.succ (ascii_of_isQuote quoted).1)

theorem At.cutLiteral (place : At text i (quote :: rest)) (quoted : isQuote quote = true) :
    At text (i + 1 + byteLength (cutLiteral quote rest).1) (cutLiteral quote rest).2 := by
  have inside := place.succ (ascii_of_isQuote quoted).1
  rw [← cutLiteral_append quote rest] at inside
  exact inside.append

def isClosed (text : List Char) (start stop : Nat) (quote : Char) : Prop :=
  start + 1 < stop ∧ byte? text (stop - 1) = some quote

instance : Decidable (isClosed text i j quote) :=
  inferInstanceAs (Decidable (_ ∧ _))

def blankPass (text : List Char) : Pass (List Char × Nat) (List Char) where
  step c i := fun (out, last) => do
    if c = '\x27' ∨ c = '\x22' then
      let stop ← skipLiteral text i c
      let kept ← slice text last (i + 1)
      return .next stop (out ++ kept ++ if isClosed text i stop c then [c] else [], stop)
    else if c = '\x60' then return .next (← skipLiteral text i c) (out, last)
    else return .next (i + 1) (out, last)
  finish _ := fun (out, last) => return out ++ (← sliceFrom text last)

def blankLiterals (text : List Char) : Checked (List Char) :=
  (blankPass text).run text 0 ([], 0)

def contentsPass (text : List Char) : Pass (List (List Char)) (List (List Char)) where
  step c i found := do
    if isQuote c then
      let stop ← skipLiteral text i c
      if isClosed text i stop c then return .next stop (found ++ [← slice text (i + 1) (stop - 1)])
      else return .next stop found
    else return .next (i + 1) found
  finish _ found := return found

def literals (text : List Char) : Checked (List (List Char)) :=
  (contentsPass text).run text 0 []

theorem isClosed_iff (quoted : isQuote quote = true) (place : At text i (quote :: rest)) :
    isClosed text i (i + 1 + byteLength (cutLiteral quote rest).1) quote ↔
      (cutLiteral quote rest).1.getLast? = some quote := by
  have ascii := (ascii_of_isQuote quoted).1
  have inside := place.succ ascii
  rw [← cutLiteral_append quote rest] at inside
  -- The byte before the end belongs to the last character, and is the quote only if that is.
  rcases List.eq_nil_or_concat' (cutLiteral quote rest).1 with empty | ⟨body, c, split⟩
  · simp [isClosed, empty]
  · rw [split, List.append_assoc] at inside
    obtain ⟨b, read, same⟩ := inside.append.byte?_last
    have further := c.utf8Size_pos
    have size : byteLength (body ++ [c]) = byteLength body + c.utf8Size := by simp [byteLength]
    rw [split, isClosed, size, List.getLast?_concat, ← Nat.add_assoc, read, Option.some.injEq,
      Option.some.injEq, same quote ascii]
    exact and_iff_right (by omega)

theorem blankFrom_template_eq (rest : List Char) :
    blankFrom .template rest = (cutLiteral '\x60' rest).1 ++
      blankFrom .code (cutLiteral '\x60' rest).2 := by
  fun_induction cutLiteral '\x60' rest with
  | case1 => rfl
  | case2 c rest ih => simp [blankFrom, ih]
  | case3 c rest unescaped breaks => simp [breaksLiteral] at breaks
  | case4 rest unescaped goesOn => simp [blankFrom]
  | case5 c rest unescaped goesOn open_ ih => simp [blankFrom, open_, ih]

theorem blankFrom_quoted_eq (quoted : quote = '\x27' ∨ quote = '\x22') (seen rest : List Char) :
    blankFrom (.quoted quote (seen.getLast? == some quote)) rest =
      (if (seen ++ (cutLiteral quote rest).1).getLast? = some quote then [quote] else []) ++
        blankFrom .code (cutLiteral quote rest).2 := by
  have ordinary : quote ≠ '\n' ∧ quote ≠ '\x60' := by rcases quoted with rfl | rfl <;> decide
  fun_induction cutLiteral quote rest generalizing seen with
  | case1 => simp [blankFrom, BlankMode.leave]
  | case2 c rest ih =>
    have last : ((seen ++ ['\\', c]).getLast? == some quote) = (c == quote) := by simp
    have later := ih (seen ++ ['\\', c])
    rw [last, List.append_assoc] at later
    simpa [blankFrom] using later
  | case3 c rest unescaped breaks =>
    have newline : c = '\n' := by simp_all [breaksLiteral]
    subst newline
    simp [blankFrom, BlankMode.leave, BlankMode.enter, isQuote]
  | case4 rest unescaped goesOn => simp [blankFrom, ordinary.1]
  | case5 c rest unescaped goesOn open_ ih =>
    have inLine : c ≠ '\n' := by simp_all [breaksLiteral]
    have last : ((seen ++ [c]).getLast? == some quote) = false := by simp [open_]
    have later := ih (seen ++ [c])
    rw [last, List.append_assoc] at later
    simpa [blankFrom, inLine, open_] using later

theorem unfinishedLiteral_reverse (quote : Char) (seen : List Char) :
    unfinishedLiteral quote seen.reverse =
      if seen.getLast? = some quote then [seen.dropLast] else [] := by
  rcases List.eq_nil_or_concat' seen with rfl | ⟨seen, c, rfl⟩
  · rfl
  · simp [unfinishedLiteral]

theorem literalsFrom_some_eq (quote : Char) (seen rest : List Char) :
    literalsFrom (some (quote, seen.reverse)) rest =
      (if (seen ++ (cutLiteral quote rest).1).getLast? = some quote then
        [(seen ++ (cutLiteral quote rest).1).dropLast] else []) ++
        literalsFrom none (cutLiteral quote rest).2 := by
  have noNewline : isQuote '\n' = false := by decide
  fun_induction cutLiteral quote rest generalizing seen with
  | case1 => simp [literalsFrom, unfinishedLiteral_reverse]
  | case2 c rest ih =>
    have later := ih (seen ++ ['\\', c])
    rw [List.append_assoc] at later
    simpa [literalsFrom] using later
  | case3 c rest unescaped breaks =>
    have newline : c = '\n' := by simp_all [breaksLiteral]
    subst newline
    simp [literalsFrom, breaks, noNewline, unfinishedLiteral_reverse]
  | case4 rest unescaped goesOn => simp [literalsFrom, goesOn]
  | case5 c rest unescaped goesOn open_ ih =>
    have later := ih (seen ++ [c])
    rw [List.append_assoc] at later
    simpa [literalsFrom, goesOn, open_] using later

theorem blankPass_passes (state : List Char × Nat) : (blankPass text).Passes state state := by
  intro b i wide
  simp [blankPass, ne_of_wide wide, Ascii]

theorem run_blankPass_quoted (out : List Char) (quoted : quote = '\x27' ∨ quote = '\x22')
    (start : At text j (mid ++ quote :: rest)) (place : At text i (quote :: rest)) :
    ∃ stop, At text stop (cutLiteral quote rest).2 ∧ (blankPass text).run text i (out, j) =
      (blankPass text).run text stop
        (out ++ mid ++
          quote :: (if (cutLiteral quote rest).1.getLast? = some quote then [quote] else []),
          stop) := by
  have isQuoted : isQuote quote = true := by rcases quoted with rfl | rfl <;> decide
  have ascii := (ascii_of_isQuote isQuoted).1
  have upTo : At text j ((mid ++ [quote]) ++ rest) := by simpa using start
  refine ⟨_, place.cutLiteral isQuoted, Pass.run_of_next (place.byte?_ascii ascii) ?_ (by omega)⟩
  simp [blankPass, quoted, skipLiteral_eq isQuoted place, upTo.slice (place.succ ascii),
    isClosed_iff isQuoted place]

theorem run_blankPass_template (state : List Char × Nat) (place : At text i ('\x60' :: rest)) :
    (blankPass text).run text i state =
      (blankPass text).run text (i + 1 + byteLength (cutLiteral '\x60' rest).1) state := by
  refine Pass.run_of_next (place.byte?_ascii (by decide)) ?_ (by omega)
  simp [blankPass, skipLiteral_eq (by decide) place]

theorem run_blankPass {out : List Char} (start : At text j (mid ++ rest)) (place : At text i rest) :
    (blankPass text).run text i (out, j) = .ok (out ++ mid ++ blankFrom .code rest) := by
  induction rest using suffix_induction generalizing mid out i j with
  | nil =>
    rw [Pass.run_of_end place]
    simp [blankPass, start.sliceFrom, blankFrom]
  | cons c rest ih =>
    have part := cutLiteral_suffix c rest
    by_cases quoted : c = '\x27' ∨ c = '\x22'
    · obtain ⟨stop, after, run⟩ := run_blankPass_quoted out quoted start place
      have fresh : At text stop ([] ++ (cutLiteral c rest).2) := after
      have enter : BlankMode.enter c = .quoted c false := by rcases quoted with rfl | rfl <;> rfl
      have inside := blankFrom_quoted_eq quoted [] rest
      rw [run, ih _ part fresh after, blankFrom, enter]
      simpa using inside.symm
    by_cases template : c = '\x60'
    · subst template
      have longer : At text j
          ((mid ++ '\x60' :: (cutLiteral '\x60' rest).1) ++ (cutLiteral '\x60' rest).2) := by
        rwa [List.append_assoc, List.cons_append, cutLiteral_append]
      have enter : BlankMode.enter '\x60' = .template := rfl
      rw [run_blankPass_template _ place, ih _ part longer (place.cutLiteral (by decide)),
        blankFrom, enter, blankFrom_template_eq]
      simp
    · have plain (_ : Ascii c) :
          (blankPass text).step c i (out, j) = .ok (.next (i + 1) (out, j)) := by
        simp [blankPass, quoted, template]
      have enter : BlankMode.enter c = .code := by
        rw [not_or] at quoted
        simp [BlankMode.enter, isQuote, quoted, template]
      have longer : At text j ((mid ++ [c]) ++ rest) := by simpa using start
      rw [Pass.run_plain place (blankPass_passes _) plain,
        ih _ (List.suffix_refl rest) longer place.next, blankFrom, enter]
      simp

theorem blankLiterals_eq (text : List Char) :
    blankLiterals text = .ok (Source.blankLiterals text) :=
  run_blankPass (At.start ([] ++ text)) (At.start text)

theorem slice_cutLiteral (quoted : isQuote quote = true) (place : At text i (quote :: rest))
    (closed : (cutLiteral quote rest).1.getLast? = some quote) :
    slice text (i + 1) (i + byteLength (cutLiteral quote rest).1) =
      .ok (cutLiteral quote rest).1.dropLast := by
  have ascii := (ascii_of_isQuote quoted).1
  obtain ⟨body, split⟩ := List.getLast?_eq_some_iff.1 closed
  have inside := place.succ ascii
  rw [← cutLiteral_append quote rest, split, List.append_assoc] at inside
  have size : i + byteLength (body ++ [quote]) = i + 1 + byteLength body := by
    simp [byteLength, utf8Size_of_ascii ascii]
    omega
  rw [split, size, List.dropLast_concat]
  exact inside.slice inside.append

theorem run_contentsPass_quoted (found : List (List Char)) (quoted : isQuote quote = true)
    (place : At text i (quote :: rest)) :
    (contentsPass text).run text i found =
      (contentsPass text).run text (i + 1 + byteLength (cutLiteral quote rest).1)
        (found ++
          if (cutLiteral quote rest).1.getLast? = some quote then
            [(cutLiteral quote rest).1.dropLast] else []) := by
  refine Pass.run_of_next (place.byte?_ascii (ascii_of_isQuote quoted).1) ?_ (by omega)
  by_cases closed : (cutLiteral quote rest).1.getLast? = some quote
  · simp [contentsPass, quoted, skipLiteral_eq quoted place, isClosed_iff quoted place, closed,
      slice_cutLiteral quoted place closed]
  · simp [contentsPass, quoted, skipLiteral_eq quoted place, isClosed_iff quoted place, closed]

theorem run_contentsPass {found : List (List Char)} (place : At text i rest) :
    (contentsPass text).run text i found = .ok (found ++ literalsFrom none rest) := by
  have passes (found : List (List Char)) : (contentsPass text).Passes found found := by
    intro b i wide
    simp [contentsPass, not_isQuote_of_wide wide]
  induction rest using suffix_induction generalizing found i with
  | nil =>
    rw [Pass.run_of_end place]
    simp [contentsPass, literalsFrom]
  | cons c rest ih =>
    by_cases quoted : isQuote c = true
    · have inside := literalsFrom_some_eq c [] rest
      rw [run_contentsPass_quoted found quoted place,
        ih _ (cutLiteral_suffix c rest) (place.cutLiteral quoted), literalsFrom, if_pos quoted]
      simpa using inside.symm
    · have plain (_ : Ascii c) :
          (contentsPass text).step c i found = .ok (.next (i + 1) found) := by
        simp [contentsPass, quoted]
      rw [Pass.run_plain place (passes _) plain, ih _ (List.suffix_refl rest) place.next,
        literalsFrom, if_neg quoted]

theorem literals_eq (text : List Char) : literals text = .ok (Source.literals text) :=
  run_contentsPass (At.start text)

end FrontendAtlas.Bytes

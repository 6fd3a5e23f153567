import FrontendAtlas.Proofs.Bytes.Literal
import FrontendAtlas.Proofs.Source.Scan
import FrontendAtlas.Source.Comment

namespace FrontendAtlas.Bytes

open FrontendAtlas.Text FrontendAtlas.Source

variable {text mid rest : List Char} {c quote : Char} {i j : Nat}

def linePass : Pass Unit Nat where
  step c i _ := if c = '\n' then .ok (.done i) else .ok (.next (i + 1) ())
  finish i _ := .ok i

def blockPass (text : List Char) : Pass Unit Nat where
  step c i _ :=
    if c = '*' ∧ byte? text (i + 1) = some '/' then .ok (.done i) else .ok (.next (i + 1) ())
  finish i _ := .ok i

def commentPass (text : List Char) : Pass (List Char × Nat) (List Char) where
  step c i := fun (out, last) => do
    if c = '/' ∧ byte? text (i + 1) = some '/' then
      let kept ← slice text last i
      let stop ← linePass.run text i ()
      return .next stop (out ++ kept, stop)
    else if c = '/' ∧ byte? text (i + 1) = some '*' then
      let kept ← slice text last i
      let close ← (blockPass text).run text (i + 2) ()
      let stop := min (close + 2) (bytes text).length
      return .next stop (out ++ kept ++ [' '], stop)
    else if isQuote c then return .next (← skipLiteral text i c) (out, last)
    else return .next (i + 1) (out, last)
  finish _ := fun (out, last) => return out ++ (← sliceFrom text last)

def stripComments (text : List Char) : Checked (List Char) :=
  (commentPass text).run text 0 ([], 0)

theorem run_linePass (place : At text i rest) :
    linePass.run text i () = .ok (i + byteLength (rest.takeWhile (· ≠ '\n'))) := by
  have passes : linePass.Passes () () := by
    intro b i wide
    simp [linePass, ne_of_wide wide, Ascii]
  induction rest generalizing i with
  | nil => exact Pass.run_of_end place
  | cons c rest ih =>
    by_cases stop : c = '\n'
    · subst stop
      exact Pass.run_of_done (place.byte?_ascii (by decide)) rfl
    · rw [Pass.run_plain place passes fun _ => by simp [linePass, stop], ih place.next]
      simp [stop, byteLength, Nat.add_assoc]

theorem stripFrom_line_eq (rest : List Char) :
    stripFrom .line rest = stripFrom .code (rest.dropWhile (· ≠ '\n')) := by
  induction rest with
  | nil => rfl
  | cons c rest ih =>
    by_cases stop : c = '\n'
    · subst stop
      simp [stripFrom, isQuote]
    · simp [stripFrom, stop, ih]

def cutBlock : List Char → List Char × List Char
  | [] => ([], [])
  | '*' :: '/' :: rest => ([], '*' :: '/' :: rest)
  | c :: rest => (c :: (cutBlock rest).1, (cutBlock rest).2)

theorem run_blockPass (place : At text i rest) :
    (blockPass text).run text i () = .ok (i + byteLength (cutBlock rest).1) := by
  have passes : (blockPass text).Passes () () := by
    intro b i wide
    simp [blockPass, ne_of_wide wide, Ascii]
  fun_induction cutBlock rest generalizing i with
  | case1 => exact Pass.run_of_end place
  | case2 rest =>
    have close := ((place.succ (by decide)).byte?_eq_iff (a := '/') (by decide)).2 rfl
    exact Pass.run_of_done (place.byte?_ascii (by decide)) (by simp [blockPass, close])
  | case3 c rest goesOn ih =>
    have plain (small : Ascii c) : (blockPass text).step c i () = .ok (.next (i + 1) ()) := by
      refine if_neg ?_
      rintro ⟨rfl, close⟩
      obtain ⟨later, rfl⟩ :=
          List.head?_eq_some_iff.1 (((place.succ small).byte?_eq_iff (by decide)).1 close)
      exact goesOn later rfl rfl
    rw [Pass.run_plain place passes plain, ih place.next]
    simp [byteLength, Nat.add_assoc]

theorem cutBlock_append (rest : List Char) : (cutBlock rest).1 ++ (cutBlock rest).2 = rest := by
  fun_induction cutBlock rest <;> simp_all

theorem cutBlock_suffix (rest : List Char) : (cutBlock rest).2.drop 2 <:+ rest :=
  (List.drop_suffix 2 _).trans ⟨_, cutBlock_append rest⟩

theorem stripFrom_block_eq (rest : List Char) :
    stripFrom .block rest = stripFrom .code ((cutBlock rest).2.drop 2) := by
  fun_induction cutBlock rest with
  | case1 => rfl
  | case2 rest => simp [stripFrom]
  | case3 c rest goesOn ih => rw [stripFrom, ih]; exact goesOn

theorem cutBlock_snd (rest : List Char) :
    (cutBlock rest).2 = [] ∨ ∃ later, (cutBlock rest).2 = '*' :: '/' :: later := by
  fun_induction cutBlock rest with
  | case1 => exact .inl rfl
  | case2 rest => exact .inr ⟨rest, rfl⟩
  | case3 c rest goesOn ih => exact ih

theorem At.cutBlock (place : At text i rest) :
    At text (min (i + byteLength (cutBlock rest).1 + 2) (bytes text).length)
      ((cutBlock rest).2.drop 2) := by
  rw [← cutBlock_append rest] at place
  have close := place.append
  have size := close.size
  rw [length_bytes]
  rcases cutBlock_snd rest with nothing | ⟨later, found⟩
  · rw [nothing] at close size ⊢
    rw [Nat.min_eq_right (by simp at size; omega), ← size]
    exact close
  · rw [found] at close ⊢
    have after := (close.succ (by decide)).succ (by decide)
    rw [Nat.min_eq_left (by have := after.size; omega)]
    exact after

theorem stripFrom_quoted_eq (quote : Char) (rest : List Char) :
    stripFrom (.quoted quote) rest = (cutLiteral quote rest).1 ++
      stripFrom .code (cutLiteral quote rest).2 := by
  fun_induction cutLiteral quote rest with
  | case1 => rfl
  | case2 c rest ih => simp [stripFrom, ih]
  | case3 c rest unescaped breaks =>
    have newline : c = '\n' := by simp_all [breaksLiteral]
    subst newline
    simp [stripFrom, breaks, isQuote]
  | case4 rest unescaped goesOn => simp [stripFrom]
  | case5 c rest unescaped goesOn open_ ih => simp [stripFrom, goesOn, open_, ih]

section Pass

variable (out : List Char)

theorem commentPass_passes (state : List Char × Nat) : (commentPass text).Passes state state := by
  intro b i wide
  simp [commentPass, ne_of_wide wide, Ascii, not_isQuote_of_wide wide]

theorem run_commentPass_line (start : At text j (mid ++ '/' :: '/' :: rest))
    (place : At text i ('/' :: '/' :: rest)) :
    ∃ stop, At text stop (rest.dropWhile (· ≠ '\n')) ∧
      (commentPass text).run text i (out, j) =
        (commentPass text).run text stop (out ++ mid, stop) := by
  let line := ('/' :: '/' :: rest).takeWhile (· ≠ '\n')
  have stop : At text (i + byteLength line) (rest.dropWhile (· ≠ '\n')) := by
    have whole : '/' :: '/' :: rest = line ++ rest.dropWhile (· ≠ '\n') := by simp [line]
    exact (whole ▸ place).append
  have second := ((place.succ (by decide)).byte?_eq_iff (a := '/') (by decide)).2 rfl
  have step : (commentPass text).step '/' i (out, j) =
      .ok (.next (i + byteLength line) (out ++ mid, i + byteLength line)) := by
    simp [commentPass, second, start.slice place, run_linePass place, line]
  refine ⟨_, stop, Pass.run_of_next (place.byte?_ascii (by decide)) step ?_⟩
  have := '/'.utf8Size_pos
  simp [line, byteLength]
  omega

theorem run_commentPass_block (start : At text j (mid ++ '/' :: '*' :: rest))
    (place : At text i ('/' :: '*' :: rest)) :
    ∃ stop, At text stop ((cutBlock rest).2.drop 2) ∧
      (commentPass text).run text i (out, j) =
        (commentPass text).run text stop (out ++ mid ++ [' '], stop) := by
  have star := place.succ (by decide)
  have inside : At text (i + 2) rest := star.succ (by decide)
  have second := (star.byte?_eq_iff (a := '*') (by decide)).2 rfl
  have step : (commentPass text).step '/' i (out, j) = .ok (.next
      (min (i + 2 + byteLength (cutBlock rest).1 + 2) (bytes text).length)
      (out ++ mid ++ [' '],
        min (i + 2 + byteLength (cutBlock rest).1 + 2) (bytes text).length)) := by
    simp [commentPass, second, start.slice place, run_blockPass inside]
  refine ⟨_, inside.cutBlock, Pass.run_of_next (place.byte?_ascii (by decide)) step ?_⟩
  have := inside.size
  rw [length_bytes]
  omega

theorem run_commentPass_quoted (quoted : isQuote quote = true) (place : At text i (quote :: rest))
    (state : List Char × Nat) :
    (commentPass text).run text i state =
      (commentPass text).run text (i + 1 + byteLength (cutLiteral quote rest).1) state := by
  have ascii := (ascii_of_isQuote quoted).1
  refine Pass.run_of_next (place.byte?_ascii ascii) ?_ (by omega)
  simp [commentPass, ne_slash_of_isQuote quoted, quoted, skipLiteral_eq quoted place]

theorem run_commentPass_plain (line : ¬ (c = '/' ∧ rest.head? = some '/'))
    (block : ¬ (c = '/' ∧ rest.head? = some '*')) (unquoted : isQuote c = false)
    (place : At text i (c :: rest)) (state : List Char × Nat) :
    (commentPass text).run text i state = (commentPass text).run text (i + c.utf8Size) state := by
  refine Pass.run_plain place (commentPass_passes state) fun small => ?_
  have slash := (place.succ small).byte?_eq_iff (a := '/') (by decide)
  have star := (place.succ small).byte?_eq_iff (a := '*') (by decide)
  simp [commentPass, slash, star, line, block, unquoted]

theorem run_commentPass (start : At text j (mid ++ rest)) (place : At text i rest) :
    (commentPass text).run text i (out, j) = .ok (out ++ mid ++ stripFrom .code rest) := by
  induction rest using suffix_induction generalizing mid out i j with
  | nil =>
    rw [Pass.run_of_end place]
    simp [commentPass, start.sliceFrom, stripFrom]
  | cons c rest ih =>
    by_cases line : c = '/' ∧ rest.head? = some '/'
    · obtain ⟨rfl, next⟩ := line
      obtain ⟨rest, rfl⟩ := List.head?_eq_some_iff.1 next
      obtain ⟨stop, after, run⟩ := run_commentPass_line out start place
      have fresh : At text stop ([] ++ rest.dropWhile (· ≠ '\n')) := after
      have part := (List.dropWhile_suffix (· ≠ '\n')).trans (List.suffix_cons '/' rest)
      rw [run, ih _ part _ fresh after, stripFrom, stripFrom_line_eq]
      simp
    by_cases block : c = '/' ∧ rest.head? = some '*'
    · obtain ⟨rfl, next⟩ := block
      obtain ⟨rest, rfl⟩ := List.head?_eq_some_iff.1 next
      obtain ⟨stop, after, run⟩ := run_commentPass_block out start place
      have fresh : At text stop ([] ++ (cutBlock rest).2.drop 2) := after
      have part := (cutBlock_suffix rest).trans (List.suffix_cons '*' rest)
      rw [run, ih _ part _ fresh after, stripFrom, stripFrom_block_eq]
      simp
    -- A literal is not written at once: it joins what waits for the next comment.
    cases quoted : isQuote c with
    | true =>
      have longer : At text j ((mid ++ c :: (cutLiteral c rest).1) ++ (cutLiteral c rest).2) := by
        rwa [List.append_assoc, List.cons_append, cutLiteral_append]
      have whole : stripFrom .code (c :: rest) = c :: stripFrom (.quoted c) rest := by
        simp [stripFrom, ne_slash_of_isQuote quoted, quoted]
      rw [run_commentPass_quoted quoted place,
        ih _ (cutLiteral_suffix c rest) _ longer (place.cutLiteral quoted), whole,
          stripFrom_quoted_eq]
      simp
    | false =>
      have longer : At text j ((mid ++ [c]) ++ rest) := by simpa using start
      have bound (slash : c = '/') (d : Char) (next : d ∈ rest.head?) : d ≠ '/' ∧ d ≠ '*' := by
        constructor
        · rintro rfl
          exact line ⟨slash, next⟩
        · rintro rfl
          exact block ⟨slash, next⟩
      rw [run_commentPass_plain line block quoted place,
        ih _ (List.suffix_refl rest) _ longer place.next, stripFrom_code_cons quoted bound]
      simp

theorem stripComments_eq (text : List Char) :
    stripComments text = .ok (Source.stripComments text) :=
  run_commentPass [] (At.start ([] ++ text)) (At.start text)

end Pass

end FrontendAtlas.Bytes

import FrontendAtlas.Proofs.Source.Rest

/-! Patterns on a text that is put together from stretches.  Most readers stop at a mark that is neither
blank nor part of a word: what they read in front of it does not depend on what comes after it.  A pattern
made of such readers finds in the whole text what it finds before the mark, and then what it finds from
the mark on. -/

namespace FrontendAtlas.Source

open FrontendAtlas.Text

section Readers

variable {mark : Char} {text : List Char}

theorem bind_map_append {found : Option (List Char)} {next : List Char → Option (List Char)} {more : List Char}
    (apart : ∀ rest ∈ found, next (rest ++ more) = (next rest).map (· ++ more)) :
    (found.map (· ++ more)).bind next = (found.bind next).map (· ++ more) := by
  cases found with
  | none => rfl
  | some rest => exact apart rest rfl

theorem dropWhile_append_mark {p : Char → Bool} (stop : p mark = false) (more : List Char) :
    (text ++ mark :: more).dropWhile p = text.dropWhile p ++ mark :: more := by
  induction text with
  | nil => simp [stop]
  | cons c text ih =>
    simp only [List.cons_append, List.dropWhile_cons, ih]
    split <;> rfl

theorem takeWhile_append_mark {p : Char → Bool} (stop : p mark = false) (more : List Char) :
    (text ++ mark :: more).takeWhile p = text.takeWhile p := by
  induction text with
  | nil => simp [stop]
  | cons c text ih => simp only [List.cons_append, List.takeWhile_cons, ih]

theorem takeWhile_append_of_ends {p : Char → Bool} (ends : (text.dropWhile p).isEmpty = false)
    (more : List Char) : (text ++ more).takeWhile p = text.takeWhile p := by
  induction text with
  | nil => cases ends
  | cons c text ih =>
    rw [List.dropWhile_cons] at ends
    rw [List.cons_append, List.takeWhile_cons, List.takeWhile_cons]
    split
    next passes =>
      rw [if_pos passes] at ends
      rw [ih ends]
    next => rfl

theorem dropWhile_append_of_ends {p : Char → Bool} (ends : (text.dropWhile p).isEmpty = false)
    (more : List Char) : (text ++ more).dropWhile p = text.dropWhile p ++ more := by
  rw [List.dropWhile_append, ends]
  rfl

theorem after?_append_mark {word : List Char} (apart : mark ∉ word) (more : List Char) :
    after? word (text ++ mark :: more) = (after? word text).map (· ++ mark :: more) := by
  induction word generalizing text with
  | nil => rfl
  | cons c word ih =>
    rw [List.mem_cons, not_or] at apart
    cases text with
    | nil => simp [after?, Ne.symm apart.1]
    | cons d text =>
      simp only [List.cons_append, after?, ih apart.2]
      split <;> rfl

theorem word?_append_mark {word : String} (apart : mark ∉ word.toList) (more : List Char) :
    word? word (text ++ mark :: more) = (word? word text).map (· ++ mark :: more) :=
  after?_append_mark apart more

theorem char?_append_mark {c : Char} (apart : mark ≠ c) (more : List Char) :
    char? c (text ++ mark :: more) = (char? c text).map (· ++ mark :: more) := by
  cases text with
  | nil => simp [char?, apart]
  | cons d text =>
    simp only [List.cons_append, char?]
    split <;> rfl

variable (visible : isBlank mark = false)
include visible

theorem gap?_append_mark (more : List Char) :
    gap? (text ++ mark :: more) = (gap? text).map (· ++ mark :: more) := by
  cases text with
  | nil => simp [gap?, visible]
  | cons d text =>
    simp only [List.cons_append, gap?, trimStart_append_cons visible]
    split <;> rfl

theorem keyword?_append_mark {word : String} (apart : mark ∉ word.toList) (more : List Char) :
    keyword? word (text ++ mark :: more) = (keyword? word text).map (· ++ mark :: more) := by
  rw [keyword?, word?_append_mark apart]
  exact bind_map_append fun rest _ => gap?_append_mark visible more

theorem skipKeyword_append_mark {word : String} (apart : mark ∉ word.toList) (more : List Char) :
    skipKeyword word (text ++ mark :: more) = skipKeyword word text ++ mark :: more := by
  rw [skipKeyword, keyword?_append_mark visible apart, skipKeyword]
  cases keyword? word text <;> rfl

omit visible in
theorem ident?_append_mark (stop : isIdentPart mark = false) (more : List Char) :
    ident? (text ++ mark :: more) = (ident? text).map fun found => (found.1, found.2 ++ mark :: more) := by
  cases text with
  | nil =>
    have other : isIdentStart mark = false := by
      cases start : isIdentStart mark with
      | false => rfl
      | true => rw [isIdentPart_of_isIdentStart start] at stop; cases stop
    simp [ident?, other]
  | cons c text =>
    simp only [List.cons_append, ident?, takeWhile_append_mark stop, dropWhile_append_mark stop]
    split <;> rfl

end Readers

variable {α : Type}

theorem oneOf?_cons (word : String) (words : List String) (next : List Char → Option α)
    (text : List Char) : oneOf? (word :: words) next text =
      (((word? word text).bind next).map (word, ·)).or (oneOf? words next text) := by
  rw [oneOf?, List.findSome?_cons, oneOf?]
  cases word? word text with
  | none => rfl
  | some rest => cases found : next rest <;> simp [found]

theorem oneOf?_append_mark {mark : Char} {text more : List Char} {words : List String}
    {next : List Char → Option (List Char)} (apart : ∀ word ∈ words, mark ∉ word.toList)
    (stops : ∀ word ∈ words, ∀ rest, word? word text = some rest →
      next (rest ++ mark :: more) = (next rest).map (· ++ mark :: more)) :
    oneOf? words next (text ++ mark :: more) =
      (oneOf? words next text).map fun found => (found.1, found.2 ++ mark :: more) := by
  induction words with
  | nil => rfl
  | cons word words ih =>
    rw [List.forall_mem_cons] at apart stops
    rw [oneOf?_cons, oneOf?_cons, ih apart.2 stops.2, Option.map_or, word?_append_mark apart.1]
    cases read : word? word text with
    | none => rfl
    | some rest =>
      simp only [Option.map_some, Option.bind_some, stops.1 rest read, Option.map_map]
      rfl

theorem afterTypes_eq (last : Option Char) (opening : List Char) :
    (match last, opening with
      | some '>', '(' :: after => some after
      | _, _ => none) = if last = some '>' then char? '(' opening else none := by
  split
  next => rfl
  next other =>
    split
    next closes =>
      cases opening with
      | nil => rfl
      | cons d after =>
        have apart : d ≠ '(' := by
          intro same
          exact other after closes (by rw [same])
        rw [char?, if_neg apart]
    next => rfl

theorem listOpen?_eq (stop : Char → Bool) (text : List Char) :
    listOpen? stop text = match trimStart text with
      | [] => none
      | c :: rest =>
        if c = '<' then
          if (trimEnd (rest.takeWhile fun c => !stop c)).getLast? = some '>' then
            char? '(' (rest.dropWhile fun c => !stop c)
          else none
        else char? '(' (c :: rest) := by
  rw [listOpen?]
  cases trimStart text with
  | nil => rfl
  | cons c rest =>
    split
    next opens =>
      cases opens
      exact afterTypes_eq _ _
    next opens =>
      cases opens
      rfl
    next types paren =>
      have noTypes : c ≠ '<' := fun same => types rest (by rw [same])
      have noParen : c ≠ '(' := fun same => paren rest (by rw [same])
      simp [char?, noTypes, noParen]

def typesOpen (stop : Char → Bool) (text : List Char) : Bool :=
  match trimStart text with
  | [] => false
  | c :: rest => c == '<' && (rest.dropWhile fun c => !stop c).isEmpty

theorem listOpen?_append_mark {mark : Char} {stop : Char → Bool} {text : List Char}
    (visible : isBlank mark = false) (apart : mark ≠ '<' ∧ mark ≠ '(')
    (closed : typesOpen stop text = false) (more : List Char) :
    listOpen? stop (text ++ mark :: more) = (listOpen? stop text).map (· ++ mark :: more) := by
  rw [listOpen?_eq, listOpen?_eq, trimStart_append_cons visible]
  rw [typesOpen] at closed
  cases trimmed : trimStart text with
  | nil => simp [char?, apart]
  | cons c rest =>
    rw [trimmed] at closed
    simp only [List.cons_append]
    split
    next types =>
      -- a character that ends the type arguments stands before the mark
      have ends : (rest.dropWhile fun c => !stop c).isEmpty = false := by simpa [types] using closed
      rw [takeWhile_append_of_ends ends, dropWhile_append_of_ends ends, char?_append_mark apart.2]
      split <;> rfl
    next =>
      rw [← List.cons_append]
      exact char?_append_mark apart.2 more

variable {pattern : Pattern α} {before : Option Char} {text more : List Char}

def valuesFrom (pattern : Pattern α) (skip : Nat) (before : Option Char) (text : List Char) : List α :=
  (hitsFrom pattern skip 0 before text).map (·.value)

def values (pattern : Pattern α) (text : List Char) : List α :=
  valuesFrom pattern 0 none text

theorem map_value_hitsFrom (skip position : Nat) (before : Option Char) (text : List Char) :
    (hitsFrom pattern skip position before text).map (·.value) = valuesFrom pattern skip before text := by
  have same (other : Nat) : (hitsFrom pattern skip position before text).map (·.value) =
      (hitsFrom pattern skip other before text).map (·.value) := by
    induction text generalizing skip position other before with
    | nil => rfl
    | cons c text ih =>
      cases skip with
      | succ skip => exact ih ..
      | zero =>
        rw [hitsFrom, hitsFrom]
        cases pattern before (c :: text) with
        | none => exact ih ..
        | some found => exact congrArg (found.1 :: ·) (ih ..)
  exact same 0

theorem valuesFrom_skip (skip : Nat) (before : Option Char) (c : Char) (text : List Char) :
    valuesFrom pattern (skip + 1) before (c :: text) = valuesFrom pattern skip (some c) text :=
  map_value_hitsFrom skip 1 (some c) text

theorem valuesFrom_cons (before : Option Char) (c : Char) (text : List Char) :
    valuesFrom pattern 0 before (c :: text) = match pattern before (c :: text) with
      | some found => found.1 :: valuesFrom pattern (text.length - found.2.length) (some c) text
      | none => valuesFrom pattern 0 (some c) text := by
  rw [valuesFrom, hitsFrom]
  cases pattern before (c :: text) with
  | none => exact map_value_hitsFrom 0 1 (some c) text
  | some found => exact congrArg _ (map_value_hitsFrom _ 1 (some c) text)

theorem fits_eq (pattern : Pattern α) (text : List Char) :
    fits pattern text = !(values pattern text).isEmpty := by
  rw [fits, values, valuesFrom, List.isEmpty_map, hits]

def ReadsApart (pattern : Pattern α) (text more : List Char) : Prop :=
  ∀ before, pattern before (text ++ more) = (pattern before text).map fun found => (found.1, found.2 ++ more)

theorem ReadsApart.refused (apart : ReadsApart pattern [] more) (nothing : pattern before [] = none) :
    pattern before more = none := by
  have read := apart before
  rw [nothing] at read
  exact read

theorem readsApart_afterBreak {reader : List Char → Option (α × List Char)} {c : Char}
    (whole : reader (c :: text ++ more) = (reader (c :: text)).map fun found => (found.1, found.2 ++ more))
    (later : reader (text ++ more) = (reader text).map fun found => (found.1, found.2 ++ more)) :
    ReadsApart (afterBreak reader) (c :: text) more := by
  intro before
  simp only [afterBreak, List.cons_append, Option.orElse_eq_orElse, Option.orElse_eq_or,
    Option.map_or] at whole ⊢
  rw [whole, later]
  congr 1
  · split <;> rfl
  · split <;> rfl

theorem valuesFrom_append {skip : Nat}
    (apart : ∀ rest, rest <:+ text → rest ≠ [] → ReadsApart pattern rest more)
    (within : skip ≤ text.length) : valuesFrom pattern skip before (text ++ more) =
      valuesFrom pattern skip before text ++ valuesFrom pattern 0 (text.getLast?.or before) more := by
  induction text generalizing skip before with
  | nil =>
    cases Nat.le_zero.1 within
    rfl
  | cons c text ih =>
    have last : (c :: text).getLast?.or before = text.getLast?.or (some c) := by
      cases text <;> simp [List.getLast?_cons]
    have later (rest : List Char) (inside : rest <:+ text) : rest ≠ [] → ReadsApart pattern rest more :=
      apart rest (inside.trans (List.suffix_cons c text))
    rw [List.cons_append, last]
    cases skip with
    | succ skip => rw [valuesFrom_skip, valuesFrom_skip, ih later (Nat.le_of_succ_le_succ within)]
    | zero =>
      have first := apart (c :: text) List.suffix_rfl (List.cons_ne_nil c text) before
      rw [valuesFrom_cons, valuesFrom_cons, ← List.cons_append, first]
      cases pattern before (c :: text) with
      | none => exact ih later (Nat.zero_le _)
      | some found =>
        have same : (text ++ more).length - (found.2 ++ more).length = text.length - found.2.length := by
          rw [List.length_append, List.length_append, Nat.add_sub_add_right]
        simp only [Option.map_some, same, List.cons_append, ih later (Nat.sub_le _ _)]

theorem values_append_mark {mark : Char}
    (blind : ∀ before, pattern before (mark :: more) = pattern none (mark :: more))
    (apart : ∀ rest, rest <:+ text → rest ≠ [] → ReadsApart pattern rest (mark :: more)) :
    values pattern (text ++ mark :: more) = values pattern text ++ values pattern (mark :: more) := by
  rw [values, valuesFrom_append apart (Nat.zero_le _), values, values,
    valuesFrom_cons _ mark, blind, ← valuesFrom_cons none mark]

theorem fits_append_mark {mark : Char}
    (blind : ∀ before, pattern before (mark :: more) = pattern none (mark :: more))
    (apart : ∀ rest, rest <:+ text → rest ≠ [] → ReadsApart pattern rest (mark :: more)) :
    fits pattern (text ++ mark :: more) = (fits pattern text || fits pattern (mark :: more)) := by
  rw [fits_eq, fits_eq, fits_eq, values_append_mark blind apart]
  cases values pattern text <;> rfl

end FrontendAtlas.Source

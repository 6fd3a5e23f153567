import FrontendAtlas.Proofs.Text.Search
import FrontendAtlas.Source.Bracket
import FrontendAtlas.Source.Comment
import FrontendAtlas.Source.Pattern

namespace FrontendAtlas.Source

open FrontendAtlas.Text

def blanks : List Char :=
  ['\t', '\n', '\x0b', '\x0c', '\r', ' ', '\u0085', '\u00a0', '\u1680', '\u2000', '\u2001',
    '\u2002', '\u2003', '\u2004', '\u2005', '\u2006', '\u2007', '\u2008', '\u2009', '\u200a',
    '\u2028', '\u2029', '\u202f', '\u205f', '\u3000']

theorem mem_blanks_of_isBlank {c : Char} (blank : isBlank c = true) : c ∈ blanks := by
  have known : c.toNat ∈ blanks.map Char.toNat := by
    by_cases ascii : c.toNat < 128
    · simp only [isBlank, ascii, if_true, Bool.or_eq_true, beq_iff_eq, Bool.and_eq_true,
        decide_eq_true_eq] at blank
      cases blank with
      | inl space =>
        rw [space]
        decide
      | inr control =>
        simp only [blanks, List.map_cons, List.mem_cons, Char.reduceToNat]
        omega
    · simp only [isBlank, ascii, if_false, Table.has, blankTable, List.any_cons, List.any_nil,
        Bool.or_eq_true, Bool.and_eq_true, decide_eq_true_eq, Bool.false_eq_true, or_false] at blank
      simp only [blanks, List.map_cons, List.mem_cons, Char.reduceToNat]
      omega
  obtain ⟨d, member, same⟩ := List.mem_map.1 known
  rwa [← Char.toNat_inj.1 same]

theorem not_isBlank_of_isIdentPart {c : Char} (part : isIdentPart c = true) : isBlank c = false := by
  have apart : blanks.any isIdentPart = false := by decide +kernel
  cases blank : isBlank c with
  | false => rfl
  | true => exact absurd part (List.any_eq_false.1 apart c (mem_blanks_of_isBlank blank))

theorem isIdentPart_of_isIdentStart {c : Char} (start : isIdentStart c = true) :
    isIdentPart c = true := by
  simp only [isIdentStart, Bool.or_eq_true, beq_iff_eq] at start
  rcases start with (letter | rfl) | rfl
  · have ascii : c.toNat < 128 := by
      simp [Char.isAlpha, Char.isUpper, Char.isLower, UInt32.le_iff_toNat_le] at letter
      simp only [Char.toNat] at *
      omega
    simp [isIdentPart, isWordChar, isAlphabetic, ascii, letter]
  · decide
  · decide

theorem span_append {p : Char → Bool} {front rest : List Char} (covered : ∀ c ∈ front, p c = true)
    (stop : ∀ c ∈ rest.head?, p c = false) :
    (front ++ rest).takeWhile p = front ∧ (front ++ rest).dropWhile p = rest := by
  have past : rest.takeWhile p = [] ∧ rest.dropWhile p = rest := by
    cases rest with
    | nil => simp
    | cons c rest => simp [stop c rfl]
  rw [List.takeWhile_append_of_pos covered, List.dropWhile_append_of_pos covered, past.1, past.2]
  simp

theorem ident?_append {first : Char} {parts rest : List Char} (start : isIdentStart first = true)
    (covered : ∀ c ∈ parts, isIdentPart c = true) (stop : ∀ c ∈ rest.head?, isIdentPart c = false) :
    ident? (first :: parts ++ rest) = some (first :: parts, rest) := by
  have cut := span_append covered stop
  simp [ident?, start, cut.1, cut.2]

theorem keyword?_append_space {word : String} {c : Char} {rest : List Char} (stop : isBlank c = false) :
    keyword? word (word.toList ++ ' ' :: c :: rest) = some (c :: rest) := by
  have blank : isBlank ' ' = true := by decide
  simp [keyword?, word?, gap?, blank, trimStart_cons_of_not_blank stop]

theorem keyword?_append {word : String} {text : List Char} (visible : ∀ c ∈ text.head?, isBlank c = false) :
    keyword? word (word.toList ++ ' ' :: text) = some text := by
  cases text with
  | nil => simp [keyword?, word?, gap?, isBlank, trimStart]
  | cons c text => exact keyword?_append_space (visible c rfl)

theorem keyword?_eq_none {word : String} {text : List Char} (missing : ¬ word.toList <+: text) :
    keyword? word text = none := by
  cases found : word? word text with
  | none => simp [keyword?, found]
  | some rest => exact absurd ⟨rest, (after?_eq_some_iff.1 found).symm⟩ missing

theorem keyword?_ident_eq_none {word : String} {name rest : List Char}
    (letters : word.toList.all isIdentPart = true) (covered : ∀ c ∈ name, isIdentPart c = true)
    (stop : ∀ c ∈ rest.head?, isIdentPart c = false ∧ isBlank c = false) :
    keyword? word (name ++ rest) = none := by
  cases found : word? word (name ++ rest) with
  | none => simp [keyword?, found]
  | some after =>
    have split := after?_eq_some_iff.1 found
    cases after with
    | nil => simp [keyword?, found, gap?]
    | cons c after =>
      suffices h : isBlank c = false by simp [keyword?, found, gap?, h]
      cases List.append_eq_append_iff.1 split with
      | inl longer =>
        obtain ⟨more, wordEq, restEq⟩ := longer
        cases more with
        | nil => exact (stop c (by simp [restEq])).2
        | cons d more =>
          have part := List.all_eq_true.1 letters d (by simp [wordEq])
          simp [(stop d (by simp [restEq])).1] at part
      | inr shorter =>
        obtain ⟨more, nameEq, afterEq⟩ := shorter
        cases more with
        | nil =>
          cases afterEq
          exact (stop c rfl).2
        | cons d more =>
          cases (List.cons.inj afterEq).1
          exact not_isBlank_of_isIdentPart (covered c (by simp [nameEq]))

section Hits

variable {α : Type} {pattern : Pattern α} {reader : List Char → Option (α × List Char)}

theorem hitsFrom_skip (pattern : Pattern α) (used rest : List Char) (position : Nat) (before : Char) :
    ∃ last ∈ before :: used, hitsFrom pattern used.length position (some before) (used ++ rest) =
      hitsFrom pattern 0 (position + used.length) (some last) rest := by
  induction used generalizing position before with
  | nil => exact ⟨before, by simp, by simp⟩
  | cons c used ih =>
    obtain ⟨last, member, search⟩ := ih (position + 1) c
    refine ⟨last, List.mem_cons_of_mem _ member, ?_⟩
    rw [List.cons_append, List.length_cons, hitsFrom, search, Nat.add_right_comm, Nat.add_assoc]

theorem hitsFrom_match {value : α} {c : Char} {used rest : List Char} {before : Option Char}
    (position : Nat) (fits : pattern before (c :: used ++ rest) = some (value, rest)) :
    ∃ last ∈ c :: used, hitsFrom pattern 0 position before (c :: used ++ rest) =
      ⟨position, value, rest⟩ ::
        hitsFrom pattern 0 (position + 1 + used.length) (some last) rest := by
  obtain ⟨last, member, search⟩ := hitsFrom_skip pattern used rest (position + 1) c
  refine ⟨last, member, ?_⟩
  rw [List.cons_append] at fits ⊢
  simp only [hitsFrom, fits]
  rw [List.length_append, Nat.add_sub_cancel, search]

theorem atLineStart_cons {before : Option Char} {c : Char} {text : List Char}
    (start : before.all (· == '\n') = true) (indent : c ≠ ' ' ∧ c ≠ '\t') :
    atLineStart reader before (c :: text) = reader (c :: text) := by
  simp [atLineStart, start, indent]

theorem hitsFrom_inside (c : Char) (rest : List Char) (position : Nat) {before : Char}
    (inside : before ≠ '\n') :
    hitsFrom (atLineStart reader) 0 position (some before) (c :: rest) =
      hitsFrom (atLineStart reader) 0 (position + 1) (some c) rest := by
  simp [hitsFrom, atLineStart, inside]

theorem hitsFrom_line (text rest : List Char) (position : Nat) {before : Char}
    (inside : before ≠ '\n') (line : '\n' ∉ text) :
    ∃ last, last ≠ '\n' ∧ hitsFrom (atLineStart reader) 0 position (some before) (text ++ rest) =
      hitsFrom (atLineStart reader) 0 (position + text.length) (some last) rest := by
  induction text generalizing position before with
  | nil => exact ⟨before, inside, by simp⟩
  | cons c text ih =>
    rw [List.mem_cons, not_or] at line
    obtain ⟨last, hlast, search⟩ := ih (position + 1) (Ne.symm line.1) line.2
    refine ⟨last, hlast, ?_⟩
    rw [List.cons_append, hitsFrom_inside c _ _ inside, search, List.length_cons, Nat.add_right_comm,
      Nat.add_assoc]

theorem hitsFrom_refused {c : Char} {text rest : List Char} (position : Nat) (before : Option Char)
    (indent : c ≠ ' ' ∧ c ≠ '\t') (line : '\n' ∉ c :: text)
    (refused : reader (c :: text ++ rest) = none) :
    ∃ last, last ≠ '\n' ∧ hitsFrom (atLineStart reader) 0 position before (c :: text ++ rest) =
      hitsFrom (atLineStart reader) 0 (position + 1 + text.length) (some last) rest := by
  rw [List.mem_cons, not_or] at line
  have nothing : atLineStart reader before (c :: text ++ rest) = none := by
    by_cases start : before.all (· == '\n') = true
    · rw [List.cons_append, atLineStart_cons start indent]
      exact refused
    · simp [atLineStart, start]
  obtain ⟨last, hlast, search⟩ := hitsFrom_line text rest (position + 1) (Ne.symm line.1) line.2
  refine ⟨last, hlast, ?_⟩
  rw [← search]
  simp only [List.cons_append] at nothing ⊢
  simp only [hitsFrom, nothing]

end Hits

section Places

variable {α : Type} {pattern : Pattern α}

theorem fits_of_mem_hitsFrom {skip position : Nat} {before : Option Char} {text : List Char} {hit : Hit α}
    (found : hit ∈ hitsFrom pattern skip position before text) :
    ∃ front back, text = front ++ back ∧ hit.position = position + front.length ∧
      pattern (front.getLast?.or before) back = some (hit.value, hit.rest) := by
  have later {c : Char} {before : Option Char} {rest : List Char} {position : Nat}
      (inside : ∃ front back, rest = front ++ back ∧ hit.position = position + 1 + front.length ∧
        pattern (front.getLast?.or (some c)) back = some (hit.value, hit.rest)) :
      ∃ front back, c :: rest = front ++ back ∧ hit.position = position + front.length ∧
        pattern (front.getLast?.or before) back = some (hit.value, hit.rest) := by
    obtain ⟨front, back, rfl, place, fits⟩ := inside
    refine ⟨c :: front, back, rfl, by simp [place]; omega, ?_⟩
    cases front <;> simpa [List.getLast?_cons] using fits
  fun_induction hitsFrom pattern skip position before text with
  | case1 => cases found
  | case2 skip position before c rest ih => exact later (ih found)
  | case3 position before c rest value after fits ih =>
    rcases List.mem_cons.1 found with rfl | found
    · exact ⟨[], c :: rest, rfl, rfl, fits⟩
    · exact later (ih found)
  | case4 position before c rest nothing ih => exact later (ih found)

theorem pairwise_hitsFrom (skip position : Nat) (before : Option Char) (text : List Char) :
    (hitsFrom pattern skip position before text).Pairwise fun a b => a.position < b.position := by
  fun_induction hitsFrom pattern skip position before text with
  | case1 => exact .nil
  | case2 skip position before c rest ih => exact ih
  | case3 position before c rest value after fits ih =>
    refine List.pairwise_cons.2 ⟨fun hit found => ?_, ih⟩
    obtain ⟨front, -, -, place, -⟩ := fits_of_mem_hitsFrom found
    simp only [place]
    omega
  | case4 position before c rest nothing ih => exact ih

theorem pairwise_hits (pattern : Pattern α) (text : List Char) :
    (hits pattern text).Pairwise fun a b => a.position < b.position :=
  pairwise_hitsFrom 0 0 none text

theorem position_ne_of_disjoint {β : Type} {first : List Char → Option (α × List Char)}
    {second : List Char → Option (β × List Char)}
    (disjoint : ∀ text, (first text).isSome = true → second text = none) {text : List Char} {hit : Hit α}
    {other : Hit β} (found : hit ∈ hits (atLineStart first) text)
    (found' : other ∈ hits (atLineStart second) text) : hit.position ≠ other.position := by
  obtain ⟨front, back, rfl, place, fits⟩ := fits_of_mem_hitsFrom found
  obtain ⟨front', back', split, place', fits'⟩ := fits_of_mem_hitsFrom found'
  intro same
  obtain ⟨rfl, rfl⟩ := List.append_inj split (by omega)
  rw [atLineStart] at fits fits'
  split at fits
  case isTrue start =>
    rw [if_pos start, disjoint _ (by rw [fits]; rfl)] at fits'
    cases fits'
  case isFalse => cases fits

end Places

section Scanners

variable {text rest : List Char}

theorem stripFrom_code_cons {c : Char} (unquoted : isQuote c = false)
    (bound : c = '/' → ∀ d ∈ rest.head?, d ≠ '/' ∧ d ≠ '*') :
    stripFrom .code (c :: rest) = c :: stripFrom .code rest := by
  by_cases slash : c = '/'
  · cases rest with
    | nil => simp [stripFrom]
    | cons d rest =>
      have other := bound slash d rfl
      rw [slash] at unquoted ⊢
      simp [stripFrom, unquoted, other]
  · simp [stripFrom, slash, unquoted]

theorem stripFrom_code_append (plain : ∀ c ∈ text, isQuote c = false ∧ c ≠ '/') :
    stripFrom .code (text ++ rest) = text ++ stripFrom .code rest := by
  induction text with
  | nil => rfl
  | cons c text ih =>
    rw [List.forall_mem_cons] at plain
    rw [List.cons_append, stripFrom_code_cons plain.1.1 (fun slash => absurd slash plain.1.2), ih plain.2]
    rfl

theorem braces_split?_previous (p q : Char) (depth : Nat) :
    Delimiters.braces.split? p depth text = Delimiters.braces.split? q depth text := by
  cases text <;> simp [Delimiters.split?, Delimiters.closesAfter, Delimiters.braces]

theorem braces_split?_other {c p : Char} {depth : Nat} (other : c ≠ '{' ∧ c ≠ '}') :
    Delimiters.braces.split? p depth (c :: rest) =
      (Delimiters.braces.split? c depth rest).map fun (inner, after) => (c :: inner, after) := by
  simp [Delimiters.split?, Delimiters.braces, other]

end Scanners

end FrontendAtlas.Source

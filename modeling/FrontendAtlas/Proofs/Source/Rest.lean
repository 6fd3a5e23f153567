import FrontendAtlas.Proofs.Source.Scan

namespace FrontendAtlas.Source

open FrontendAtlas.Text

variable {text rest : List Char} {c : Char}

theorem trimStart_suffix (text : List Char) : trimStart text <:+ text :=
  List.dropWhile_suffix _

theorem suffix_of_word? {word : String} (read : word? word text = some rest) : rest <:+ text :=
  ⟨word.toList, (after?_eq_some_iff.1 read).symm⟩

theorem suffix_of_gap? (read : gap? text = some rest) : rest <:+ text := by
  cases text with
  | nil => cases read
  | cons c text =>
    rw [gap?] at read
    split at read
    · cases read
      exact (trimStart_suffix text).trans (List.suffix_cons c text)
    · cases read

theorem suffix_of_keyword? {word : String} (read : keyword? word text = some rest) :
    rest <:+ text := by
  obtain ⟨after, found, blank⟩ := Option.bind_eq_some_iff.1 read
  exact (suffix_of_gap? blank).trans (suffix_of_word? found)

theorem skipKeyword_suffix (word : String) (text : List Char) : skipKeyword word text <:+ text := by
  rw [skipKeyword]
  cases found : keyword? word text with
  | none => exact List.suffix_refl text
  | some rest => exact suffix_of_keyword? found

theorem char?_eq_some_iff : char? c text = some rest ↔ text = c :: rest := by
  cases text with
  | nil => simp [char?]
  | cons d text => simp [char?]

theorem suffix_of_ident? {name : List Char} (read : ident? text = some (name, rest)) :
    rest <:+ text := by
  cases text with
  | nil => cases read
  | cons c text =>
    rw [ident?] at read
    split at read
    · cases read
      exact (List.dropWhile_suffix _).trans (List.suffix_cons c text)
    · cases read

theorem suffix_of_oneOf? {words : List String} {next : List Char → Option (List Char)}
    {word : String} (front : List Char)
    (reads : ∀ {text rest}, next text = some rest → front ++ rest <:+ text)
    (read : oneOf? words next text = some (word, rest)) : front ++ rest <:+ text := by
  obtain ⟨other, -, read⟩ := List.exists_of_findSome?_eq_some read
  simp only [Option.bind_eq_bind, Option.bind_eq_some_iff, Option.pure_def, Option.some.injEq,
    Prod.mk.injEq] at read
  obtain ⟨after, found, left, taken, -, rfl⟩ := read
  exact (reads taken).trans (suffix_of_word? found)

theorem suffix_of_listOpen? {stop : Char → Bool} (read : listOpen? stop text = some rest) :
    '(' :: rest <:+ text := by
  refine List.IsSuffix.trans ?_ (trimStart_suffix text)
  rw [listOpen?] at read
  split at read
  next after opens =>
    split at read
    next rest' kept closes =>
      cases read
      rw [opens, ← closes]
      exact (List.dropWhile_suffix _).trans (List.suffix_cons _ _)
    next => cases read
  next after opens =>
    cases read
    rw [opens]
  next => cases read

theorem suffix_of_assigned? {stop : Char → Bool} (read : assigned? stop text = some rest) :
    rest <:+ text := by
  refine List.IsSuffix.trans ?_ (trimStart_suffix text)
  rw [assigned?] at read
  split at read
  next after opens =>
    split at read
    next rest' kept closes =>
      cases read
      rw [opens]
      refine (List.suffix_cons '=' rest).trans (List.IsSuffix.trans ?_ (List.suffix_cons _ _))
      rw [← closes]
      exact List.dropWhile_suffix _
    next => cases read
  next after opens =>
    cases read
    rw [opens]
    exact List.suffix_cons _ _
  next => cases read

section Patterns

variable {α : Type} {pattern : Pattern α} {reader : List Char → Option (α × List Char)}
    {front : List Char}
  {before : Option Char} {value : α}

def Leaves (front : List Char) (reader : List Char → Option (α × List Char)) : Prop :=
  ∀ {text value rest}, reader text = some (value, rest) → front ++ rest <:+ text

theorem Leaves.atLineStart (reads : Leaves front reader) (before : Option Char) :
    Leaves front (atLineStart reader before) := by
  intro text value rest read
  rw [Source.atLineStart] at read
  split at read
  · exact (reads read).trans (List.dropWhile_suffix _)
  · cases read

theorem Leaves.atWordStart (reads : Leaves front reader) (before : Option Char) :
    Leaves front (atWordStart reader before) := by
  intro text value rest read
  rw [Source.atWordStart] at read
  split at read
  · cases read
  · exact reads read

theorem Leaves.afterBreak (reads : Leaves front reader) (before : Option Char) :
    Leaves front (afterBreak reader before) := by
  intro text value rest read
  unfold Source.afterBreak at read
  cases atStart : if before.isNone then reader text else none with
  | some found =>
    rw [atStart] at read
    cases read
    split at atStart
    · exact reads atStart
    · cases atStart
  | none =>
    rw [atStart] at read
    cases text with
    | nil => cases read
    | cons c text =>
      simp only [Option.orElse_eq_orElse, Option.orElse_eq_or, Option.none_or] at read
      split at read
      · cases read
      · exact (reads read).trans (List.suffix_cons c text)

theorem suffix_of_mem_hits {hit : Hit α} (reads : ∀ before, Leaves front (pattern before))
    (found : hit ∈ hits pattern text) :
    front ++ hit.rest <:+ text := by
  obtain ⟨skipped, back, rfl, -, fits⟩ := fits_of_mem_hitsFrom found
  exact (reads _ fits).trans (List.suffix_append skipped back)

end Patterns

end FrontendAtlas.Source

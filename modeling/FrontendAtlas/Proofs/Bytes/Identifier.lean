import FrontendAtlas.Proofs.Bytes.Bracket
import FrontendAtlas.Proofs.Source.Occurrence

namespace FrontendAtlas.Bytes

open FrontendAtlas.Text FrontendAtlas.Source

def offset (text name : List Char) (place : Occurrence) : Nat :=
  byteLength text - byteLength (name ++ place.after)

def mentions (text name : List Char) : Checked Bool :=
  (occurrences name text).anyM fun place => do
    let i := offset text name place
    let before := (← slice text 0 i).getLast?
    let after := (← sliceFrom text (i + byteLength name)).head?
    return !before.any isIdentChar && !after.any isIdentChar

def applies (text : List Char) : Checked Bool := do
  if text.head? = some '<' then
    match ← matchingClose .angles text 0 with
    | some close => return (trimStart (← sliceFrom text (close + 1))).head? == some '('
    | none => return false
  else return text.head? == some '('

def calls (text name : List Char) : Checked Bool :=
  (occurrences name text).anyM fun place => do
    let i := offset text name place
    let before := (← slice text 0 i).getLast?
    if before.any fun c => isIdentChar c || c == '.' then return false
    let rest ← sliceFrom text (i + byteLength name)
    if rest.head?.any isIdentChar then return false
    applies (trimStart rest)

variable {text name rest : List Char}

theorem slices_of_mem_occurrences {place : Occurrence} (found : place ∈ occurrences name text) :
    ∃ front, slice text 0 (offset text name place) = .ok front ∧ front.getLast? = place.before ∧
      sliceFrom text (offset text name place + byteLength name) = .ok place.after := by
  obtain ⟨-, front, whole, last⟩ := mem_occurrences found
  have word : At text (offset text name place) (name ++ place.after) :=
    At.of_suffix ⟨front, whole.symm⟩
  have start : At text 0 (front ++ (name ++ place.after)) := by
    rw [← whole]
    exact .start text
  exact ⟨front, start.slice word, last.symm, word.append.sliceFrom⟩

theorem mentions_eq (text name : List Char) :
    mentions text name = .ok (Source.mentions text name) := by
  apply anyM_eq
  intro place found
  obtain ⟨front, before, last, after⟩ := slices_of_mem_occurrences found
  simp [before, after, last, Occurrence.isWhole]

theorem ascii_angles : Ascii Delimiters.angles.opener ∧ Ascii Delimiters.angles.closer := by decide

theorem applies_eq (place : Occurrence) :
    applies (trimStart place.after) = .ok place.isApplied := by
  rw [applies, Occurrence.isApplied]
  cases trimStart place.after with
  | nil => rfl
  | cons c rest =>
    by_cases opens : c = '<'
    · subst opens
      have start : At ('<' :: rest) 0 (Delimiters.angles.opener :: rest) := .start _
      have body : Delimiters.angles.body? ('<' :: rest) = Delimiters.angles.split? '<' 0 rest :=
        body?_opener Delimiters.angles rest
      have close : matchingClose .angles ('<' :: rest) 0 =
          .ok ((Delimiters.angles.split? '<' 0 rest).map fun found => 0 + 1 + byteLength found.1) :=
        matchingClose_of_at ascii_angles start
      cases split : Delimiters.angles.split? '<' 0 rest with
      | none => simp [close, body, split]
      | some found =>
        have after : sliceFrom ('<' :: rest) (1 + byteLength found.1 + 1) = .ok found.2 := by
          simpa using (start.delimited ascii_angles split).2.sliceFrom
        simp [close, body, split, after]
    · simp [opens]

theorem calls_eq (text name : List Char) : calls text name = .ok (Source.calls text name) := by
  apply anyM_eq
  intro place found
  obtain ⟨front, before, last, after⟩ := slices_of_mem_occurrences found
  have member : place.before.any (fun c => isIdentChar c || c == '.') =
      (place.before.any isIdentChar || place.before == some '.') := by
    cases place.before <;> simp
  cases ident : place.before.any isIdentChar <;> cases dot : place.before == some '.' <;>
    cases longer : place.after.head?.any isIdentChar <;>
    simp [before, after, last, member, ident, dot, longer, applies_eq, Occurrence.isWhole, bne]

end FrontendAtlas.Bytes

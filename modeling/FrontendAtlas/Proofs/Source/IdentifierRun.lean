import FrontendAtlas.Proofs.Bytes.Bracket
import FrontendAtlas.Proofs.Source.Balance
import FrontendAtlas.Proofs.Source.Occurrence

/-! Identifiers as the longest runs of identifier characters in a text.  A search that looks for a name from left
to right, and behind each place it has found, misses none of them: a place that overlaps an earlier one has an
identifier character in front of it. -/

namespace FrontendAtlas.Source

open FrontendAtlas.Text FrontendAtlas.Bytes

structure IdentWord (word : List Char) : Prop where
  nonempty : word ≠ []
  idents : ∀ c ∈ word, isIdentChar c = true

structure IdentRun (text : List Char) where
  before : List Char
  word : List Char
  after : List Char
  whole : before ++ (word ++ after) = text
  isWord : IdentWord word
  starts : ∀ c ∈ before.getLast?, isIdentChar c = false
  ends : ∀ c ∈ after.head?, isIdentChar c = false

inductive Applied : List Char → Prop
  | plain {gap arguments : List Char} (blank : ∀ c ∈ gap, isBlank c = true) : Applied (gap ++ '(' :: arguments)
  | typed {gap types space arguments : List Char} {close : Nat} (blank : ∀ c ∈ gap, isBlank c = true)
      (closed : Delimiters.angles.close? types 0 = some close)
      (rest : fromByte? (close + 1) types = some (space ++ '(' :: arguments))
      (spaced : ∀ c ∈ space, isBlank c = true) : Applied (gap ++ types)

theorem head?_trimStart_iff {text : List Char} {c : Char} (visible : isBlank c = false) :
    (trimStart text).head? = some c ↔ ∃ gap rest, text = gap ++ c :: rest ∧ ∀ b ∈ gap, isBlank b = true := by
  constructor
  · intro first
    obtain ⟨rest, trimmed⟩ := List.head?_eq_some_iff.1 first
    refine ⟨text.takeWhile isBlank, rest, ?_, fun b member => List.mem_takeWhile_imp member⟩
    rw [← trimmed]
    exact List.takeWhile_append_dropWhile.symm
  · rintro ⟨gap, rest, rfl, blank⟩
    rw [trimStart, (span_append blank (by simp [visible])).2]
    rfl

theorem split?_of_body? {d : Delimiters} {text : List Char} {found : List Char × List Char}
    (read : d.body? text = some found) :
    ∃ rest, text = d.opener :: rest ∧ d.split? d.opener 0 rest = some found := by
  cases text with
  | nil => cases read
  | cons c rest =>
    rw [Delimiters.body?] at read
    split at read
    case isTrue opens =>
      subst opens
      exact ⟨rest, rfl, read⟩
    case isFalse => cases read

theorem close?_zero_iff {d : Delimiters} (ascii : Ascii d.opener ∧ Ascii d.closer) {text rest : List Char} :
    (∃ close, d.close? text 0 = some close ∧ fromByte? (close + 1) text = some rest) ↔
      ∃ inner, d.body? text = some (inner, rest) := by
  have start : fromByte? 0 text = some text := fromByte?_eq_some_iff.2 (.start text)
  have after {inner more : List Char} (read : d.body? text = some (inner, more)) :
      fromByte? (0 + 1 + byteLength inner + 1) text = some more := by
    obtain ⟨body, rfl, split⟩ := split?_of_body? read
    exact fromByte?_eq_some_iff.2 ((At.start _).delimited ascii split).2
  constructor
  · rintro ⟨close, closed, found⟩
    simp only [Delimiters.close?, start, Option.bind_eq_bind, Option.bind_some, Option.bind_eq_some_iff,
      Option.pure_def, Option.some.injEq, Prod.exists] at closed
    obtain ⟨inner, more, read, rfl⟩ := closed
    rw [after read] at found
    cases found
    exact ⟨inner, read⟩
  · rintro ⟨inner, read⟩
    exact ⟨0 + 1 + byteLength inner, by simp [Delimiters.close?, start, read], after read⟩

theorem applied_iff {text : List Char} : Applied text ↔ (trimStart text).head? = some '(' ∨
    ∃ inner rest, Delimiters.angles.body? (trimStart text) = some (inner, rest) ∧
      (trimStart rest).head? = some '(' := by
  have paren : isBlank '(' = false := by decide
  have ascii : Ascii Delimiters.angles.opener ∧ Ascii Delimiters.angles.closer := by decide
  constructor
  · intro applied
    cases applied with
    | plain blank => exact .inl ((head?_trimStart_iff paren).2 ⟨_, _, rfl, blank⟩)
    | @typed gap types space arguments close blank closed found spaced =>
      obtain ⟨inner, read⟩ := (close?_zero_iff ascii).1 ⟨close, closed, found⟩
      obtain ⟨body, rfl, -⟩ := split?_of_body? read
      have opener : isBlank Delimiters.angles.opener = false := by decide
      have trimmed : trimStart (gap ++ Delimiters.angles.opener :: body) = Delimiters.angles.opener :: body :=
        (span_append blank (by simp [opener])).2
      rw [trimmed]
      exact .inr ⟨inner, _, read, (head?_trimStart_iff paren).2 ⟨space, arguments, rfl, spaced⟩⟩
  · rintro (first | ⟨inner, rest, read, first⟩)
    · obtain ⟨gap, arguments, rfl, blank⟩ := (head?_trimStart_iff paren).1 first
      exact .plain blank
    · obtain ⟨space, arguments, rfl, spaced⟩ := (head?_trimStart_iff paren).1 first
      obtain ⟨close, closed, found⟩ := (close?_zero_iff ascii).2 ⟨inner, read⟩
      have applied : Applied (text.takeWhile isBlank ++ trimStart text) :=
        .typed (fun c member => List.mem_takeWhile_imp member) closed found spaced
      rwa [trimStart, List.takeWhile_append_dropWhile] at applied

theorem isApplied_iff {place : Occurrence} : place.isApplied = true ↔ Applied place.after := by
  rw [Occurrence.isApplied, applied_iff]
  cases trimStart place.after with
  | nil => simp [Delimiters.body?]
  | cons c next =>
    by_cases opens : c = '<'
    · subst opens
      simp [Option.any_eq_true]
    · simp [opens, Delimiters.body?, Delimiters.angles]

theorem isWhole_iff {place : Occurrence} : place.isWhole = true ↔
    (∀ c ∈ place.before, isIdentChar c = false) ∧ ∀ c ∈ place.after.head?, isIdentChar c = false := by
  cases before : place.before <;> cases after : place.after.head? <;>
    simp [Occurrence.isWhole, before, after]

section Name

variable {text name : List Char} (isName : IdentWord name)
include isName

theorem exists_occurrence_iff (condition : Option Char → List Char → Prop) :
    (∃ place ∈ occurrences name text, place.isWhole = true ∧ condition place.before place.after) ↔
      ∃ run : IdentRun text, run.word = name ∧ condition run.before.getLast? run.after := by
  constructor
  · rintro ⟨place, found, whole, holds⟩
    obtain ⟨-, front, split, last⟩ := mem_occurrences found
    obtain ⟨starts, ends⟩ := isWhole_iff.1 whole
    rw [last] at starts holds
    exact ⟨⟨front, name, place.after, split.symm, isName, starts, ends⟩, rfl, holds⟩
  · rintro ⟨run, rfl, holds⟩
    have apart : ∀ c ∈ run.before.getLast?, c ∉ run.word := by
      intro c last member
      exact Bool.false_ne_true ((run.starts c last).symm.trans (run.isWord.idents c member))
    have found : ⟨run.before.getLast?, run.after⟩ ∈
        occurrences run.word (run.before ++ (run.word ++ run.after)) :=
      mem_occurrences_of_apart run.isWord.nonempty apart
    rw [run.whole] at found
    exact ⟨_, found, isWhole_iff.2 ⟨run.starts, run.ends⟩, holds⟩

theorem mentions_iff : mentions text name = true ↔ ∃ run : IdentRun text, run.word = name := by
  have runs : (∃ place ∈ occurrences name text, place.isWhole = true ∧ True) ↔
      ∃ run : IdentRun text, run.word = name ∧ True := exists_occurrence_iff isName fun _ _ => True
  simpa [mentions] using runs

theorem calls_iff : calls text name = true ↔
    ∃ run : IdentRun text, run.word = name ∧ run.before.getLast? ≠ some '.' ∧ Applied run.after := by
  rw [← exists_occurrence_iff isName fun before after => before ≠ some '.' ∧ Applied after]
  simp [calls, isApplied_iff, and_assoc]

end Name

theorem ne_of_isIdentChar {c d : Char} (ident : isIdentChar c = true) (sign : isIdentChar d = false) : c ≠ d := by
  rintro rfl
  exact Bool.false_ne_true (sign.symm.trans ident)

def Exchanged (word other back a b : List Char) : Prop :=
  a = b ∨ ∃ front, a = front ++ (word ++ back) ∧ b = front ++ (other ++ back)

section Exchange

variable {word other back a b : List Char}

theorem IdentWord.exists_head (ident : IdentWord word) :
    ∃ c rest, word = c :: rest ∧ isIdentChar c = true := by
  obtain ⟨c, rest, rfl⟩ := List.exists_cons_of_ne_nil ident.nonempty
  exact ⟨c, rest, rfl, ident.idents c List.mem_cons_self⟩

theorem IdentWord.depth?_angles (ident : IdentWord word) (previous : Char) (depth : Nat) :
    Delimiters.angles.depth? previous depth word = some depth := by
  obtain ⟨-, idents⟩ := ident
  induction word generalizing previous with
  | nil => rfl
  | cons c word ih =>
    rw [List.forall_mem_cons] at idents
    have opens : c ≠ '<' := ne_of_isIdentChar idents.1 (by decide)
    have closes : c ≠ '>' := ne_of_isIdentChar idents.1 (by decide)
    simpa [Delimiters.depth?, Delimiters.angles, opens, closes] using ih c idents.2

theorem split?_angles_previous {p q : Char} (same : p ≠ '=' ∧ q ≠ '=') (depth : Nat) (text : List Char) :
    Delimiters.angles.split? p depth text = Delimiters.angles.split? q depth text := by
  cases text <;> simp [Delimiters.split?, Delimiters.closesAfter, Delimiters.angles, same]

theorem IdentWord.split?_append (ident : IdentWord word) (previous : Char) (depth : Nat) (back : List Char) :
    Delimiters.angles.split? previous depth (word ++ back) =
      (Delimiters.angles.split? ' ' depth back).map fun found => (word ++ found.1, found.2) := by
  rw [Delimiters.split?_append (ident.depth?_angles previous depth)]
  have last : (word.getLast?.getD previous) ∈ word := by
    rw [List.getLast?_eq_getLast_of_ne_nil ident.nonempty]
    exact List.getLast_mem _
  have plain : word.getLast?.getD previous ≠ '=' := ne_of_isIdentChar (ident.idents _ last) (by decide)
  rw [split?_angles_previous (q := ' ') ⟨plain, by decide⟩]

variable (isWord : IdentWord word) (isOther : IdentWord other)
include isWord isOther

theorem Exchanged.trimStart (same : Exchanged word other back a b) :
    Exchanged word other back (trimStart a) (trimStart b) := by
  rcases same with rfl | ⟨front, rfl, rfl⟩
  · exact .inl rfl
  · obtain ⟨c, rest, rfl, ident⟩ := isWord.exists_head
    obtain ⟨d, more, rfl, ident'⟩ := isOther.exists_head
    refine .inr ⟨Text.trimStart front, ?_, ?_⟩
    · exact trimStart_append_cons (not_isBlank_of_isIdentChar ident) front _
    · exact trimStart_append_cons (not_isBlank_of_isIdentChar ident') front _

omit isOther in
theorem Exchanged.head? (same : Exchanged word other back a b) {sign : Char} (apart : isIdentChar sign = false)
    (first : a.head? = some sign) : b.head? = some sign := by
  rcases same with rfl | ⟨front, rfl, rfl⟩
  · exact first
  · cases front with
    | nil =>
      obtain ⟨c, rest, rfl, ident⟩ := isWord.exists_head
      exact absurd (Option.some.inj first) (ne_of_isIdentChar ident apart)
    | cons c front => exact first

theorem Exchanged.split?_angles (front : List Char) {previous : Char} {depth : Nat} {inner rest : List Char}
    (read : Delimiters.angles.split? previous depth (front ++ (word ++ back)) = some (inner, rest)) :
    ∃ inner' rest', Delimiters.angles.split? previous depth (front ++ (other ++ back)) = some (inner', rest') ∧
      Exchanged word other back rest rest' := by
  induction front generalizing previous depth inner with
  | nil =>
    rw [List.nil_append, isWord.split?_append] at read
    obtain ⟨found, split, same⟩ := Option.map_eq_some_iff.1 read
    cases same
    refine ⟨other ++ found.1, found.2, ?_, .inl rfl⟩
    rw [List.nil_append, isOther.split?_append, split, Option.map_some]
  | cons c front ih =>
    have deeper {previous : Char} {depth : Nat}
        (read : (Delimiters.angles.split? previous depth (front ++ (word ++ back))).map
          (fun found => (c :: found.1, found.2)) = some (inner, rest)) :
        ∃ inner' rest', (Delimiters.angles.split? previous depth (front ++ (other ++ back))).map
          (fun found => (c :: found.1, found.2)) = some (inner', rest') ∧
            Exchanged word other back rest rest' := by
      obtain ⟨found, split, same⟩ := Option.map_eq_some_iff.1 read
      cases same
      obtain ⟨inner', rest', split', related⟩ := ih split
      exact ⟨c :: inner', rest', by rw [split', Option.map_some], related⟩
    simp only [List.cons_append, Delimiters.split?] at read ⊢
    split at read
    case isTrue opens =>
      rw [if_pos opens]
      exact deeper read
    case isFalse opens =>
      rw [if_neg opens]
      split at read
      case isTrue closes =>
        rw [if_pos closes]
        cases depth with
        | zero =>
          cases read
          exact ⟨[], _, rfl, .inr ⟨front, rfl, rfl⟩⟩
        | succ depth => exact deeper read
      case isFalse closes =>
        rw [if_neg closes]
        exact deeper read

theorem Exchanged.body?_angles (same : Exchanged word other back a b) {inner rest : List Char}
    (read : Delimiters.angles.body? a = some (inner, rest)) :
    ∃ inner' rest', Delimiters.angles.body? b = some (inner', rest') ∧ Exchanged word other back rest rest' := by
  rcases same with rfl | ⟨front, rfl, rfl⟩
  · exact ⟨inner, rest, read, .inl rfl⟩
  · obtain ⟨body, opens, split⟩ := split?_of_body? read
    cases front with
    | nil =>
      obtain ⟨c, more, rfl, ident⟩ := isWord.exists_head
      exact absurd (List.cons.inj opens).1 (ne_of_isIdentChar ident (by decide))
    | cons c front =>
      rw [List.cons_append, List.cons.injEq] at opens
      obtain ⟨rfl, rfl⟩ := opens
      obtain ⟨inner', rest', split', related⟩ := Exchanged.split?_angles isWord isOther front split
      exact ⟨inner', rest', by rw [List.cons_append, body?_opener, split'], related⟩

theorem Exchanged.applied (same : Exchanged word other back a b) (applied : Applied a) : Applied b := by
  have paren : isIdentChar '(' = false := by decide
  have trimmed := same.trimStart isWord isOther
  rw [applied_iff] at applied ⊢
  rcases applied with first | ⟨inner, rest, read, first⟩
  · exact .inl (trimmed.head? isWord paren first)
  · obtain ⟨inner', rest', read', related⟩ := trimmed.body?_angles isWord isOther read
    exact .inr ⟨inner', rest', read', (related.trimStart isWord isOther).head? isWord paren first⟩

end Exchange

namespace IdentRun

variable {text : List Char}

def replaced (run : IdentRun text) (other : List Char) : List Char :=
  run.before ++ (other ++ run.after)

def put (run : IdentRun text) {other : List Char} (ident : IdentWord other) : IdentRun (run.replaced other) :=
  ⟨run.before, other, run.after, rfl, ident, run.starts, run.ends⟩

theorem word_eq (run found : IdentRun text) (same : run.word ++ run.after = found.word ++ found.after) :
    found.word = run.word := by
  have here := (span_append run.isWord.idents run.ends).1
  rwa [same, (span_append found.isWord.idents found.ends).1] at here

theorem exists_gap (run found : IdentRun text) (differs : found.word ≠ run.word) {passed : List Char}
    (later : found.before = run.before ++ passed)
    (rest : run.word ++ run.after = passed ++ (found.word ++ found.after)) :
    ∃ gap, gap ≠ [] ∧ found.before = run.before ++ (run.word ++ gap) ∧
      run.after = gap ++ (found.word ++ found.after) := by
  have moved : passed ≠ [] := by
    rintro rfl
    exact differs (run.word_eq found rest)
  have outside : passed.getLast moved ∉ run.word := by
    intro member
    have starts := found.starts (passed.getLast moved) (by
      rw [later, List.getLast?_append_of_ne_nil _ moved]
      exact List.getLast?_eq_getLast_of_ne_nil moved)
    exact Bool.false_ne_true (starts.symm.trans (run.isWord.idents _ member))
  rcases List.append_eq_append_iff.1 rest with ⟨gap, rfl, after⟩ | ⟨more, word, -⟩
  · refine ⟨gap, ?_, later, after⟩
    rintro rfl
    exact outside (by simp)
  · exact absurd (by simp [word]) outside

theorem apart (run found : IdentRun text) (differs : found.word ≠ run.word) :
    (∃ gap, gap ≠ [] ∧ run.before = found.before ++ (found.word ++ gap) ∧
        found.after = gap ++ (run.word ++ run.after)) ∨
      ∃ gap, gap ≠ [] ∧ found.before = run.before ++ (run.word ++ gap) ∧
        run.after = gap ++ (found.word ++ found.after) := by
  rcases List.append_eq_append_iff.1 (run.whole.trans found.whole.symm) with
    ⟨passed, later, rest⟩ | ⟨passed, later, rest⟩
  · exact .inr (run.exists_gap found differs later rest)
  · exact .inl (found.exists_gap run differs.symm later rest)

theorem exists_kept (run found : IdentRun text) (differs : found.word ≠ run.word) (other : List Char) :
    ∃ kept : IdentRun (run.replaced other), kept.word = found.word ∧
      kept.before.getLast? = found.before.getLast? ∧ Exchanged run.word other run.after found.after kept.after := by
  rcases run.apart found differs with ⟨gap, space, before, after⟩ | ⟨gap, space, before, after⟩
  · refine ⟨⟨found.before, found.word, gap ++ (other ++ run.after), ?_, found.isWord, found.starts,
      ?_⟩, rfl, rfl, .inr ⟨gap, after, rfl⟩⟩
    · simp [replaced, before]
    · have ends := found.ends
      rw [after, List.head?_append_of_ne_nil _ space] at ends
      rwa [List.head?_append_of_ne_nil _ space]
  · have last (word : List Char) : (run.before ++ (word ++ gap)).getLast? = gap.getLast? := by
      rw [← List.append_assoc, List.getLast?_append_of_ne_nil _ space]
    have same : (run.before ++ (other ++ gap)).getLast? = found.before.getLast? := by rw [last, before, last]
    refine ⟨⟨run.before ++ (other ++ gap), found.word, found.after, ?_, found.isWord, ?_,
      found.ends⟩, rfl, same, .inl rfl⟩
    · simp [replaced, after]
    · rw [same]
      exact found.starts

section Name

variable {name other : List Char} (isName : IdentWord name)
include isName

theorem mentions_replaced (run : IdentRun text) (differs : run.word ≠ name)
    (mentioned : mentions text name = true) : mentions (run.replaced other) name = true := by
  obtain ⟨found, rfl⟩ := (mentions_iff isName).1 mentioned
  obtain ⟨kept, same, -⟩ := run.exists_kept found differs.symm other
  exact (mentions_iff isName).2 ⟨kept, same⟩

theorem calls_replaced (run : IdentRun text) (differs : run.word ≠ name) (isOther : IdentWord other)
    (called : calls text name = true) : calls (run.replaced other) name = true := by
  obtain ⟨found, rfl, plain, applied⟩ := (calls_iff isName).1 called
  obtain ⟨kept, same, last, exchanged⟩ := run.exists_kept found differs.symm other
  rw [← last] at plain
  exact (calls_iff isName).2 ⟨kept, same, plain, exchanged.applied run.isWord isOther applied⟩

theorem unaffected (run : IdentRun text) (differs : run.word ≠ name) (isOther : IdentWord other)
    (differs' : other ≠ name) : mentions (run.replaced other) name = mentions text name ∧
      calls (run.replaced other) name = calls text name := by
  -- putting the first word back gives the text again
  have back : (run.put isOther).replaced run.word = text := run.whole
  have mentioned : mentions (run.replaced other) name = true →
      mentions ((run.put isOther).replaced run.word) name = true :=
    mentions_replaced isName (run.put isOther) differs'
  have called := calls_replaced isName (run.put isOther) differs' run.isWord
  rw [back] at mentioned called
  exact ⟨Bool.eq_iff_iff.2 ⟨mentioned, mentions_replaced isName run differs⟩,
    Bool.eq_iff_iff.2 ⟨called, calls_replaced isName run differs isOther⟩⟩

end Name

end IdentRun

/-- A name is mentioned where it is a run, and called where such a run is no member of something and an argument
list follows.  Other names in the text, also those that contain it, do not matter. -/
theorem mentions_and_calls_exact {name : List Char} (isName : IdentWord name) (text : List Char) :
    (mentions text name = true ↔ ∃ run : IdentRun text, run.word = name) ∧
    (calls text name = true ↔
      ∃ run : IdentRun text, run.word = name ∧ run.before.getLast? ≠ some '.' ∧ Applied run.after) ∧
    (calls text name = true → mentions text name = true) ∧
    ∀ (run : IdentRun text) (other : List Char), run.word ≠ name → IdentWord other → other ≠ name →
      mentions (run.replaced other) name = mentions text name ∧
        calls (run.replaced other) name = calls text name := by
  refine ⟨mentions_iff isName, calls_iff isName, ?_, fun run other differs isOther differs' =>
    run.unaffected isName differs isOther differs'⟩
  intro called
  obtain ⟨run, same, -⟩ := (calls_iff isName).1 called
  exact (mentions_iff isName).2 ⟨run, same⟩

theorem mentions_and_calls_exact_overlap :
    let text := "tatata(x); tata <A<B>> (y)".toList
    let name := "tata".toList
    IdentWord name ∧ mentions text name = true ∧ calls text name = true ∧
      (∃ run : IdentRun text, run.word = name ∧ run.before.getLast? ≠ some '.' ∧ Applied run.after) ∧
      calls "to(x); tata <A<B>> (y)".toList name = true := by
  intro text name
  have isName : IdentWord name := ⟨by decide, List.all_eq_true.1 (by decide +kernel)⟩
  have called : calls text name = true := by decide +kernel
  obtain ⟨-, exact_calls, implies, unaffected⟩ := mentions_and_calls_exact isName text
  have isLonger : IdentWord "tatata".toList := ⟨by decide, List.all_eq_true.1 (by decide +kernel)⟩
  let longer : IdentRun text :=
    ⟨[], _, "(x); tata <A<B>> (y)".toList, rfl, isLonger, by simp, by rintro c ⟨⟩; decide⟩
  have differs : "tatata".toList ≠ name := by decide
  have isOther : IdentWord "to".toList := ⟨by decide, List.all_eq_true.1 (by decide +kernel)⟩
  have shorter := (unaffected longer "to".toList differs isOther (by decide)).2
  exact ⟨isName, implies called, called, exact_calls.1 called, shorter.trans called⟩

end FrontendAtlas.Source

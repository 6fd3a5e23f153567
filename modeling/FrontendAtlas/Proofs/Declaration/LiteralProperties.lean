import FrontendAtlas.Proofs.Bytes.Literal
import FrontendAtlas.Proofs.Declaration.InterfaceExtraction

/-! Properties whose types are quoted literals with escapes.  The removal of comments passes over escapes in
pairs, the cutting into pieces looks only at the character before a quote.  The two agree on where a literal
ends unless its last character is a backslash, which then was escaped itself; for the second pass such a
literal goes on, and its property takes in what follows. -/

namespace FrontendAtlas.Declaration

open FrontendAtlas.Text FrontendAtlas.Source

def Completes (mark : QuoteMark) (contents : List Char) : Prop :=
  ∀ rest, Bytes.cutLiteral mark.char (contents ++ mark.char :: rest) = (contents ++ [mark.char], rest)

structure LiteralProperty where
  name : Identifier
  mark : QuoteMark
  contents : List Char
  complete : Completes mark contents

namespace LiteralProperty

def literal (property : LiteralProperty) : List Char :=
  property.mark.char :: (property.contents ++ [property.mark.char])

def text (property : LiteralProperty) : List Char :=
  property.name.text ++ ':' :: ' ' :: property.literal

def print (property : LiteralProperty) : List Char :=
  property.text ++ [';', '\n']

def EndsPlain (property : LiteralProperty) : Prop :=
  property.contents.getLast? ≠ some '\\'

instance (property : LiteralProperty) : Decidable property.EndsPlain :=
  inferInstanceAs (Decidable (_ ≠ _))

end LiteralProperty

inductive LiteralContents (quote : Char) : List Char → Prop
  | nil : LiteralContents quote []
  | escape (c : Char) {rest : List Char} : LiteralContents quote rest → LiteralContents quote ('\\' :: c :: rest)
  | plain {c : Char} {rest : List Char} : c ≠ '\\' → c ≠ '\n' → c ≠ quote → LiteralContents quote rest →
    LiteralContents quote (c :: rest)

theorem Completes.of_escape {mark : QuoteMark} {c : Char} {contents : List Char}
    (complete : Completes mark ('\\' :: c :: contents)) : Completes mark contents := by
  intro rest
  have cut := complete rest
  simp only [List.cons_append, Bytes.cutLiteral, Prod.mk.injEq, List.cons.injEq, true_and] at cut
  exact Prod.ext cut.1 cut.2

theorem Completes.of_plain {mark : QuoteMark} {c : Char} {contents : List Char} (unescaped : c ≠ '\\')
    (complete : Completes mark (c :: contents)) : c ≠ '\n' ∧ c ≠ mark.char ∧ Completes mark contents := by
  have step (rest : List Char) : (if breaksLiteral mark.char c then ([], c :: (contents ++ mark.char :: rest))
      else if c = mark.char then ([c], contents ++ mark.char :: rest)
      else (c :: (Bytes.cutLiteral mark.char (contents ++ mark.char :: rest)).1,
        (Bytes.cutLiteral mark.char (contents ++ mark.char :: rest)).2)) =
      (c :: (contents ++ [mark.char]), rest) := by
    have cut := complete rest
    simpa [Bytes.cutLiteral, unescaped] using cut
  have within : breaksLiteral mark.char c = false := by
    cases breaks : breaksLiteral mark.char c with
    | false => rfl
    | true => simpa [breaks] using step []
  have inside : c ≠ mark.char := by
    intro closes
    have cut := step []
    rw [within, if_neg Bool.false_ne_true, if_pos closes] at cut
    simp at cut
  refine ⟨?_, inside, ?_⟩
  · rintro rfl
    cases mark <;> cases within
  · intro rest
    have cut := step rest
    simp only [within, inside, Bool.false_eq_true, if_false, Prod.mk.injEq, List.cons.injEq, true_and] at cut
    exact Prod.ext cut.1 cut.2

theorem not_completes_backslash (mark : QuoteMark) : ¬ Completes mark ['\\'] := by
  intro complete
  have cut := complete ['.']
  cases mark <;> cases cut

theorem Completes.literalContents {mark : QuoteMark} {contents : List Char} (complete : Completes mark contents) :
    LiteralContents mark.char contents := by
  match contents with
  | [] => exact .nil
  | [c] =>
    by_cases escape : c = '\\'
    · exact absurd (escape ▸ complete) (not_completes_backslash mark)
    · obtain ⟨line, inside, -⟩ := complete.of_plain escape
      exact .plain escape line inside .nil
  | c :: d :: rest =>
    by_cases escape : c = '\\'
    · subst escape
      exact .escape d complete.of_escape.literalContents
    · obtain ⟨line, inside, later⟩ := complete.of_plain escape
      exact .plain escape line inside later.literalContents

theorem piecesFrom_quoted {quote c previous : Char} (goesOn : ¬ (c = quote ∧ previous ≠ '\\')) (depth : Int)
    (rest : List Char) : piecesFrom ⟨depth, previous, some quote⟩ (c :: rest) =
      (piecesFrom ⟨depth, c, some quote⟩ rest).modifyHead (c :: ·) := by
  have next : PieceState.next ⟨depth, previous, some quote⟩ c = ⟨depth, c, some quote⟩ := by
    simp only [PieceState.next, if_neg goesOn]
  rw [TypeState.piecesFrom_cons rfl, next]

theorem piecesFrom_enter (mark : QuoteMark) (previous : Char) (rest : List Char) :
    piecesFrom ⟨0, previous, none⟩ (mark.char :: rest) =
      (piecesFrom ⟨0, mark.char, some mark.char⟩ rest).modifyHead (mark.char :: ·) := by
  have goes : PieceState.ends ⟨0, previous, none⟩ mark.char = false := by cases mark <;> rfl
  have next : PieceState.next ⟨0, previous, none⟩ mark.char = ⟨0, mark.char, some mark.char⟩ := by
    cases mark <;> simp [PieceState.next, PieceState.depthStep, QuoteMark.char, isQuote]
  rw [TypeState.piecesFrom_cons goes, next]

theorem piecesFrom_leave (mark : QuoteMark) (last : Option Char) (rest : List Char) :
    piecesFrom ⟨0, last.getD mark.char, some mark.char⟩ (mark.char :: rest) =
      (piecesFrom ⟨0, mark.char, if last = some '\\' then some mark.char else none⟩ rest).modifyHead
        (mark.char :: ·) := by
  have next : PieceState.next ⟨0, last.getD mark.char, some mark.char⟩ mark.char =
      ⟨0, mark.char, if last = some '\\' then some mark.char else none⟩ := by
    cases last <;> simp [PieceState.next, mark.char_ne]
  rw [TypeState.piecesFrom_cons rfl, next]

namespace LiteralContents

variable {mark : QuoteMark} {contents : List Char}

theorem stripFrom_append (valid : LiteralContents mark.char contents) (rest : List Char) :
    stripFrom (.quoted mark.char) (contents ++ rest) = contents ++ stripFrom (.quoted mark.char) rest := by
  induction valid with
  | nil => rfl
  | escape c _ ih => simp [stripFrom, ih]
  | plain unescaped line inside _ ih => simp [stripFrom, unescaped, breaksLiteral, line, inside, ih]

theorem piecesFrom_append (valid : LiteralContents mark.char contents) (depth : Int) (previous : Char)
    (rest : List Char) : piecesFrom ⟨depth, previous, some mark.char⟩ (contents ++ rest) =
      (piecesFrom ⟨depth, contents.getLast?.getD previous, some mark.char⟩ rest).modifyHead (contents ++ ·) := by
  induction valid generalizing previous with
  | nil =>
    change _ = (piecesFrom ⟨depth, previous, some mark.char⟩ rest).modifyHead _
    rw [List.nil_append]
    cases piecesFrom ⟨depth, previous, some mark.char⟩ rest <;> rfl
  | @escape c contents _ ih =>
    have last : ('\\' :: c :: contents).getLast?.getD previous = contents.getLast?.getD c := by
      simp [List.getLast?_cons]
    have escape : ¬ ('\\' = mark.char ∧ previous ≠ '\\') := fun closes =>
      mark.char_ne '\\' (by simp) closes.1.symm
    rw [last, List.cons_append, List.cons_append, piecesFrom_quoted escape, piecesFrom_quoted (by simp), ih,
      List.modifyHead_modifyHead, List.modifyHead_modifyHead]
    rfl
  | @plain c contents _ _ inside _ ih =>
    have last : (c :: contents).getLast?.getD previous = contents.getLast?.getD c := by
      simp [List.getLast?_cons]
    rw [last, List.cons_append, piecesFrom_quoted (fun closes => inside closes.1), ih, List.modifyHead_modifyHead]
    rfl

end LiteralContents

theorem trimEnd_append_cons {c : Char} (visible : isBlank c = false) (front back : List Char) :
    trimEnd (front ++ c :: back) = front ++ c :: trimEnd back := by
  have cut : trimStart (back.reverse ++ c :: front.reverse) = trimStart back.reverse ++ c :: front.reverse :=
    trimStart_append_cons visible _ _
  simp only [trimStart] at cut
  simp [trimEnd, cut]

namespace LiteralProperty

variable (property : LiteralProperty)

theorem stripFrom_print (rest : List Char) :
    stripFrom .code (property.print ++ rest) = property.print ++ stripFrom .code rest := by
  have front : ∀ c ∈ property.name.text ++ [':', ' '], isQuote c = false ∧ c ≠ '/' := by
    rw [List.forall_mem_append]
    refine ⟨?_, by simp [isQuote]⟩
    intro c member
    have other := TypeState.notMem_signs_of_isIdentPart
      (List.all_eq_true.1 property.name.all_isIdentPart c member)
    simp only [TypeState.signs, List.mem_cons, not_or] at other
    simp [isQuote, other]
  have ending : stripFrom .code (';' :: '\n' :: rest) = ';' :: '\n' :: stripFrom .code rest := by
    simp [stripFrom, isQuote]
  have split (later : List Char) : property.print ++ later = (property.name.text ++ [':', ' ']) ++
      property.mark.char :: (property.contents ++ property.mark.char :: ';' :: '\n' :: later) := by
    simp [print, text, literal]
  rw [split, split, stripFrom_code_append front, TypeState.stripFrom_enter,
    property.complete.literalContents.stripFrom_append, TypeState.stripFrom_leave, ending]

theorem piecesFrom_text (previous : Char) (rest : List Char) :
    piecesFrom ⟨0, previous, none⟩ (property.text ++ rest) =
      (piecesFrom ⟨0, property.mark.char,
        if property.contents.getLast? = some '\\' then some property.mark.char else none⟩ rest).modifyHead
        (property.text ++ ·) := by
  obtain ⟨last, name⟩ : ∃ last, property.name.text.foldlM TypeState.step? (.code [] previous) =
      some (.code [] last) := TypeState.run_identParts property.name.all_isIdentPart
  have run : (property.name.text ++ [':', ' ']).foldlM TypeState.step? (.code [] previous) =
      some (.code [] ' ') :=
    TypeState.run_append name (TypeState.run_cons (by decide) (TypeState.run_cons (by decide) rfl))
  have front (later : List Char) : piecesFrom ⟨0, previous, none⟩ (property.name.text ++ [':', ' '] ++ later) =
      (piecesFrom ⟨0, ' ', none⟩ later).modifyHead (property.name.text ++ [':', ' '] ++ ·) := by
    obtain ⟨state, agrees, pieces⟩ := TypeState.piecesFrom_run .code run
    cases agrees
    exact pieces
  have split : property.text ++ rest = property.name.text ++ [':', ' '] ++
      property.mark.char :: (property.contents ++ property.mark.char :: rest) := by
    simp [text, literal]
  rw [split, front, piecesFrom_enter, property.complete.literalContents.piecesFrom_append, piecesFrom_leave]
  simp only [List.modifyHead_modifyHead]
  congr 1
  funext piece
  simp [text, literal]

theorem piecesFrom_print (plain : property.EndsPlain) (previous : Char) (rest : List Char) :
    piecesFrom ⟨0, previous, none⟩ (property.print ++ rest) =
      property.text :: [] :: piecesFrom ⟨0, '\n', none⟩ rest := by
  rw [print, List.append_assoc, property.piecesFrom_text, if_neg plain]
  simp [Member.piecesFrom_separator]

theorem piecesFrom_print_of_backslash (backslash : property.contents.getLast? = some '\\') (previous : Char)
    (rest : List Char) : ∃ piece more,
      piecesFrom ⟨0, previous, none⟩ (property.print ++ rest) = (property.text ++ ';' :: piece) :: more := by
  have goesOn : ¬ (';' = property.mark.char ∧ property.mark.char ≠ '\\') := by
    cases property.mark <;> simp [QuoteMark.char]
  rw [print, List.append_assoc, property.piecesFrom_text, if_pos backslash, List.cons_append,
    piecesFrom_quoted goesOn]
  cases pieces : piecesFrom ⟨0, ';', some property.mark.char⟩ ([('\n')] ++ rest) with
  | nil => exact absurd pieces (TypeState.piecesFrom_ne_nil _)
  | cons piece more => exact ⟨piece, more, rfl⟩

theorem text_eq_cons : property.text =
    property.name.first :: (property.name.parts ++ ':' :: ' ' :: property.literal) := rfl

theorem text_eq_concat : property.text =
    (property.name.text ++ ':' :: ' ' :: property.mark.char :: property.contents) ++ [property.mark.char] := by
  simp [text, literal]

theorem visible_first : isBlank property.name.first = false :=
  not_isBlank_of_isIdentPart (isIdentPart_of_isIdentStart property.name.starts)

theorem trim_text_append {c : Char} (visible : isBlank c = false) (more : List Char) :
    trim (property.text ++ c :: more) = property.text ++ c :: trimEnd more := by
  have start : trimStart (property.text ++ c :: more) = property.text ++ c :: more := by
    rw [text_eq_cons, List.cons_append]
    exact trimStart_cons_of_not_blank property.visible_first _
  rw [trim, start, trimEnd_append_cons visible]

theorem trim_text : trim property.text = property.text := by
  apply trim_eq_self
  · rintro c ⟨⟩
    exact property.visible_first
  · intro c last
    rw [text_eq_concat, List.getLast?_concat] at last
    cases last
    exact property.mark.not_isBlank_char

theorem opensMidway_text_append (more : List Char) : opensMidway (property.text ++ more) = false := by
  have signs : ['|', '&', '='].any isIdentStart = false := by decide
  have other : ∀ d ∈ ['|', '&', '='], d ≠ property.name.first := by
    rintro d member rfl
    exact List.any_eq_false.1 signs _ member property.name.starts
  simp [opensMidway, startsWith, after?, text_eq_cons, other]

theorem endsMidway_text : endsMidway property.text = false := by
  have other : ∀ d ∈ ['|', '&', ':', '>'], d ≠ property.mark.char := by
    cases property.mark <;> simp [QuoteMark.char]
  simp [endsMidway, endsWith, startsWith, after?, text_eq_concat, other]

theorem property?_text_append {more type : List Char} (trimmed : trim (property.literal ++ more) = type)
    (nonempty : type ≠ []) : property? (property.text ++ more) = some (property.name.text, type) := by
  have whole : property.text ++ more = property.name.text ++ ':' :: ' ' :: (property.literal ++ more) := by
    simp [text]
  have colon : isIdentPart ':' = false ∧ isBlank ':' = false := by decide
  have nothing : keyword? "readonly" (property.name.text ++ ':' :: ' ' :: (property.literal ++ more)) = none := by
    apply keyword?_ident_eq_none (by decide +kernel) (List.all_eq_true.1 property.name.all_isIdentPart)
    simpa using colon
  have named : propertyName? (property.name.text ++ ':' :: ' ' :: (property.literal ++ more)) =
      some (property.name.text, ':' :: ' ' :: (property.literal ++ more)) :=
    (PropertyKey.identifier property.name).propertyName?_text (by simpa using colon.1)
  have spaced : trim (' ' :: (property.literal ++ more)) = type := by
    rw [trim, trimStart_cons_of_blank (by decide)]
    exact trimmed
  rw [whole, property?, nothing, typedName?, named]
  simp [trimStart_cons_of_not_blank colon.2, char?, spaced, nonempty]

theorem property?_text : property? property.text = some (property.name.text, property.literal) := by
  have trimmed : trim (property.literal ++ []) = property.literal := by
    rw [List.append_nil]
    apply trim_eq_self
    · rintro c ⟨⟩
      exact property.mark.not_isBlank_char
    · intro c last
      rw [literal, ← List.cons_append, List.getLast?_concat] at last
      cases last
      exact property.mark.not_isBlank_char
  simpa using property.property?_text_append trimmed (by simp [literal])

theorem property?_text_semicolon (more : List Char) : property? (property.text ++ ';' :: more) =
    some (property.name.text, property.literal ++ ';' :: trimEnd more) := by
  apply property.property?_text_append
  · have start : trimStart (property.literal ++ ';' :: more) = property.literal ++ ';' :: more :=
      trimStart_cons_of_not_blank property.mark.not_isBlank_char _
    rw [trim, start, trimEnd_append_cons (by decide)]
  · simp

end LiteralProperty

theorem exists_joinPieces_eq (last : List Char) (before pieces : List (List Char)) : ∃ more others,
    joinPieces (last :: before) pieces = before.reverse ++ (last ++ more) :: others := by
  induction pieces generalizing last before with
  | nil => exact ⟨[], [], by simp [joinPieces]⟩
  | cons piece pieces ih =>
    rw [joinPieces]
    split
    · exact ih last before
    · split
      · obtain ⟨more, others, joined⟩ := ih (last ++ ' ' :: trim piece) before
        exact ⟨' ' :: trim piece ++ more, others, by simp [joined]⟩
      · obtain ⟨more, others, joined⟩ := ih (trim piece) (last :: before)
        exact ⟨[], (trim piece ++ more) :: others, by simp [joined]⟩

theorem joinPieces_cons {done pieces : List (List Char)} {piece member : List Char} (trimmed : trim piece = member)
    (nonempty : member ≠ []) (opens : opensMidway member = false)
    (finished : ∀ last ∈ done.head?, endsMidway last = false) :
    joinPieces done (piece :: pieces) = joinPieces (member :: done) pieces := by
  cases done with
  | nil => simp [joinPieces, trimmed, nonempty]
  | cons last before => simp [joinPieces, trimmed, nonempty, opens, finished last rfl]

theorem joinPieces_print {declared : List LiteralProperty} (plain : ∀ property ∈ declared, property.EndsPlain)
    {done : List (List Char)} (previous : Char) (finished : ∀ last ∈ done.head?, endsMidway last = false)
    (rest : List Char) : ∃ previous' done', done' = (declared.map LiteralProperty.text).reverse ++ done ∧
      (∀ last ∈ done'.head?, endsMidway last = false) ∧
      joinPieces done (piecesFrom ⟨0, previous, none⟩ (declared.flatMap LiteralProperty.print ++ rest)) =
        joinPieces done' (piecesFrom ⟨0, previous', none⟩ rest) := by
  induction declared generalizing done previous with
  | nil => exact ⟨previous, done, rfl, finished, rfl⟩
  | cons property declared ih =>
    rw [List.forall_mem_cons] at plain
    have ended : ∀ last ∈ (property.text :: done).head?, endsMidway last = false := by
      rintro last ⟨⟩
      exact property.endsMidway_text
    obtain ⟨previous', done', rfl, finished', joined⟩ := ih plain.2 '\n' ended
    refine ⟨previous', _, ?_, finished', ?_⟩
    · simp
    · have opens : opensMidway property.text = false := by
        simpa using property.opensMidway_text_append []
      rw [List.flatMap_cons, List.append_assoc, property.piecesFrom_print plain.1,
        joinPieces_cons property.trim_text (by simp [property.text_eq_cons]) opens finished, ← joined]
      exact joinPieces_blank _ [[]] _ (by simp)

theorem stripComments_print (declared : List LiteralProperty) :
    stripComments (declared.flatMap LiteralProperty.print) = declared.flatMap LiteralProperty.print := by
  rw [stripComments]
  induction declared with
  | nil => rfl
  | cons property declared ih => rw [List.flatMap_cons, property.stripFrom_print, ih]

section Properties

variable {declared front back : List LiteralProperty}

theorem members_print_append (plain : ∀ property ∈ front, property.EndsPlain) (rest : List Char) :
    ∃ previous, (∀ last ∈ (front.map LiteralProperty.text).reverse.head?, endsMidway last = false) ∧
      members (front.flatMap LiteralProperty.print ++ rest) =
        joinPieces (front.map LiteralProperty.text).reverse (piecesFrom ⟨0, previous, none⟩ rest) := by
  have fresh : ∀ last ∈ ([] : List (List Char)).head?, endsMidway last = false := by simp
  obtain ⟨previous, done, rfl, finished, joined⟩ := joinPieces_print plain '\x00' fresh rest
  rw [List.append_nil] at finished joined
  exact ⟨previous, finished, joined⟩

theorem members_print (plain : ∀ property ∈ declared, property.EndsPlain) :
    members (declared.flatMap LiteralProperty.print) = declared.map LiteralProperty.text := by
  obtain ⟨previous, -, joined⟩ := members_print_append plain []
  rw [List.append_nil] at joined
  simp [joined, piecesFrom, joinPieces, trim, trimStart, trimEnd]

theorem members_print_of_backslash (plain : ∀ property ∈ front, property.EndsPlain) {property : LiteralProperty}
    (backslash : property.contents.getLast? = some '\\') : ∃ more others,
    members ((front ++ property :: back).flatMap LiteralProperty.print) =
      front.map LiteralProperty.text ++ (property.text ++ ';' :: more) :: others := by
  obtain ⟨previous, finished, joined⟩ :=
    members_print_append plain (property.print ++ back.flatMap LiteralProperty.print)
  obtain ⟨piece, pieces, cut⟩ :=
    property.piecesFrom_print_of_backslash backslash previous (back.flatMap LiteralProperty.print)
  obtain ⟨more, others, later⟩ := exists_joinPieces_eq (property.text ++ ';' :: trimEnd piece)
    (front.map LiteralProperty.text).reverse pieces
  refine ⟨trimEnd piece ++ more, others, ?_⟩
  rw [List.flatMap_append, List.flatMap_cons, joined, cut,
    joinPieces_cons (property.trim_text_append (by decide) piece) (by simp) (property.opensMidway_text_append _)
      finished, later]
  simp

def LiteralProperty.entry (property : LiteralProperty) : String × String :=
  (String.ofList property.name.text, String.ofList property.literal)

theorem filterMap_text (declared : List LiteralProperty) :
    ((declared.map LiteralProperty.text).filterMap fun member =>
      (property? member).map fun found => (String.ofList found.1, String.ofList found.2)) =
        declared.map LiteralProperty.entry := by
  rw [List.filterMap_map, ← List.filterMap_eq_map]
  congr 1
  funext property
  simp [property.property?_text, LiteralProperty.entry]

theorem get?_properties_of_backslash (plain : ∀ property ∈ front, property.EndsPlain)
    {property : LiteralProperty} (backslash : property.contents.getLast? = some '\\')
    (fresh : property.name.text ∉ front.map (·.name.text)) : ∃ more,
    (properties ((front ++ property :: back).flatMap LiteralProperty.print)).get?
      (String.ofList property.name.text) = some (String.ofList (property.literal ++ ';' :: more)) := by
  obtain ⟨more, others, cut⟩ : ∃ more others,
      members ((front ++ property :: back).flatMap LiteralProperty.print) =
        front.map LiteralProperty.text ++ (property.text ++ ';' :: more) :: others :=
    members_print_of_backslash plain backslash
  refine ⟨trimEnd more, ?_⟩
  have absent : (front.map LiteralProperty.entry).lookup (String.ofList property.name.text) = none := by
    rw [List.lookup_eq_none_iff]
    intro entry listed
    obtain ⟨other, member, rfl⟩ := List.mem_map.1 listed
    rw [bne_iff_ne]
    intro same
    exact fresh (List.mem_map.2 ⟨other, member, (String.ofList_inj.1 same).symm⟩)
  rw [properties, stripComments_print, cut, List.filterMap_append, filterMap_text, List.filterMap_cons,
    property.property?_text_semicolon, Dict.get?_ofListFirst]
  simp [List.lookup_append, absent]

/-- Properties of different names, each with a literal as its type, are read back exactly if no literal has a
backslash before its second quote. -/
theorem literal_properties_read_back {declared : List LiteralProperty}
    (distinct : (declared.map (·.name.text)).Nodup) :
    properties (declared.flatMap LiteralProperty.print) = Dict.ofList (declared.map LiteralProperty.entry) ↔
      ∀ property ∈ declared, property.EndsPlain := by
  have named : ((declared.map LiteralProperty.entry).map (·.1)).Nodup := nodup_map_fst_ofList distinct
  constructor
  · intro same
    cases found : declared.find? fun property => decide (property.contents.getLast? = some '\\') with
    | none =>
      intro property member backslash
      exact absurd (decide_eq_true backslash) (List.find?_eq_none.1 found property member)
    | some property =>
      obtain ⟨backslash, front, back, rfl, plain⟩ := List.find?_eq_some_iff_append.1 found
      have backslash : property.contents.getLast? = some '\\' := of_decide_eq_true backslash
      have plain : ∀ property ∈ front, property.EndsPlain := by
        intro other member
        simpa [LiteralProperty.EndsPlain] using plain other member
      have fresh : property.name.text ∉ front.map (·.name.text) := by
        rw [List.map_append, List.map_cons] at distinct
        intro earlier
        exact (List.nodup_append.1 distinct).2.2 _ earlier _ List.mem_cons_self rfl
      obtain ⟨more, read⟩ : ∃ more, (properties ((front ++ property :: back).flatMap LiteralProperty.print)).get?
          (String.ofList property.name.text) = some (String.ofList (property.literal ++ ';' :: more)) :=
        get?_properties_of_backslash plain backslash fresh
      have listed : property.entry ∈ (front ++ property :: back).map LiteralProperty.entry := by simp
      rw [same, Dict.get?_ofList_of_nodup named, (Dict.lookup_eq_some_iff_mem named).2 listed, Option.some.injEq,
        String.ofList_inj] at read
      simp at read
  · intro plain
    rw [properties, stripComments_print, members_print plain, Dict.ofList_eq_ofListFirst named]
    exact congrArg Dict.ofListFirst (filterMap_text declared)

end Properties

def escapedLiterals : List LiteralProperty :=
  [⟨⟨'a', [], rfl, rfl⟩, .single, "it\\'s; b: \\\\n //".toList, fun _ => rfl⟩,
    ⟨⟨'b', ['1'], rfl, by decide⟩, .double, "\\\"'\\t,".toList, fun _ => rfl⟩]

theorem literal_properties_read_back_escaped :
    (escapedLiterals.map (·.name.text)).Nodup ∧
    escapedLiterals.flatMap LiteralProperty.print =
      "a: 'it\\'s; b: \\\\n //';\nb1: \"\\\"'\\t,\";\n".toList ∧
    properties (escapedLiterals.flatMap LiteralProperty.print) =
      Dict.ofList [("a", "'it\\'s; b: \\\\n //'"), ("b1", "\"\\\"'\\t,\"")] := by
  have distinct : (escapedLiterals.map (·.name.text)).Nodup := by decide
  exact ⟨distinct, by decide +kernel, (literal_properties_read_back distinct).2 (by decide +kernel)⟩

def backslashLiterals : List LiteralProperty :=
  [⟨⟨'a', [], rfl, rfl⟩, .single, ['\\', '\\'], fun _ => rfl⟩,
    ⟨⟨'b', [], rfl, rfl⟩, .single, ['x'], fun _ => rfl⟩]

/-- The first property takes in the second one. -/
theorem literal_properties_merged :
    (backslashLiterals.map (·.name.text)).Nodup ∧
    backslashLiterals.flatMap LiteralProperty.print = "a: '\\\\';\nb: 'x';\n".toList ∧
    (properties (backslashLiterals.flatMap LiteralProperty.print)).entries =
      [("a", "'\\\\';\nb: 'x';")] ∧
    (Dict.ofList (backslashLiterals.map LiteralProperty.entry)).entries =
      [("a", "'\\\\'"), ("b", "'x'")] :=
  ⟨by decide, by decide +kernel, by decide +kernel, by decide +kernel⟩

end FrontendAtlas.Declaration

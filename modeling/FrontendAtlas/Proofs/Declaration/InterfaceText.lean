import FrontendAtlas.Proofs.Declaration.TypeText

namespace FrontendAtlas.Declaration

open FrontendAtlas.Text FrontendAtlas.Source

structure Identifier where
  first : Char
  parts : List Char
  starts : isIdentStart first = true
  continues : parts.all isIdentPart = true

def Identifier.text (name : Identifier) : List Char :=
  name.first :: name.parts

inductive PropertyKey where
  | identifier (name : Identifier)
  | quoted (mark : QuoteMark) (content : List Char) (parts : content.all isLiteralPart = true)

namespace PropertyKey

def name : PropertyKey → List Char
  | identifier name => name.text
  | quoted _ content _ => content

def text : PropertyKey → List Char
  | identifier name => name.text
  | quoted mark content _ => mark.char :: content ++ [mark.char]

end PropertyKey

/-- A type expression on one line.  Semicolons and commas stand inside its brackets only, and it does
not end where more of it has to follow. -/
structure TypeText where
  text : List Char
  nonempty : text ≠ []
  trimmed : trim text = text
  nested : ∃ last, text.foldlM TypeState.step? (.code [] ' ') = some (.code [] last)
  finished : ∀ sign ∈ ["|", "&", ":", "=>"], ¬ sign.toList <:+ text

inductive MemberEnd where
  | semicolon
  | comma
  | newline
  | semicolonNewline
  | commaNewline

def MemberEnd.text : MemberEnd → List Char
  | semicolon => [';']
  | comma => [',']
  | newline => ['\n']
  | semicolonNewline => [';', '\n']
  | commaNewline => [',', '\n']

theorem MemberEnd.text_eq (ending : MemberEnd) :
    ∃ c ∈ [';', ',', '\n'], ending.text = [c] ∨ c ≠ '\n' ∧ ending.text = [c, '\n'] := by
  cases ending <;> simp [text]

structure Member where
  readonly : Bool
  key : PropertyKey
  optional : Bool
  type : TypeText
  ending : MemberEnd

namespace Member

def keyed (member : Member) : List Char :=
  member.key.text ++ (if member.optional then ['?'] else []) ++ ':' :: ' ' :: member.type.text

def text (member : Member) : List Char :=
  if member.readonly then "readonly".toList ++ ' ' :: member.keyed else member.keyed

def print (member : Member) : List Char :=
  member.text ++ member.ending.text

end Member

structure Interface where
  name : Identifier
  members : List Member
  distinct : (members.map (·.key.name)).Nodup

namespace Interface

def body (interface : Interface) : List Char :=
  '\n' :: interface.members.flatMap Member.print

def head (interface : Interface) : List Char :=
  "export".toList ++ ' ' :: ("interface".toList ++ ' ' :: interface.name.text)

def print (interface : Interface) : List Char :=
  interface.head ++ ' ' :: '{' :: (interface.body ++ ['}', '\n'])

def declaration (interface : Interface) (path : String) : TypeDeclaration where
  name := String.ofList interface.name.text
  kind := .interface
  properties := .ofList <| interface.members.map fun member =>
    (String.ofList member.key.name, String.ofList member.type.text)
  path := path

end Interface

namespace TypeState

variable {s t u : TypeState} {text rest : List Char}

theorem run_append (front : text.foldlM step? s = some t) (back : rest.foldlM step? t = some u) :
    (text ++ rest).foldlM step? s = some u := by
  rw [List.foldlM_append, front]
  exact back

def signs : List Char :=
  ['\x27', '\x22', '\x60', '\n', '{', '(', '[', '<', '}', ')', ']', '>', '/', '*', ';', ',']

theorem step?_of_notMem_signs {due : List Char} {previous c : Char} (other : c ∉ signs) :
    step? (.code due previous) c = some (.code due c) := by
  simp only [signs, List.mem_cons, not_or] at other
  simp [step?, QuoteMark.ofChar?, closer?, closes, isPlain, other]

theorem notMem_signs_of_isIdentPart {c : Char} (part : isIdentPart c = true) : c ∉ signs := by
  have apart : signs.any isIdentPart = false := by decide +kernel
  intro sign
  exact List.any_eq_false.1 apart c sign part

theorem run_cons {due : List Char} {previous c : Char} (other : c ∉ signs)
    (run : text.foldlM step? (.code due c) = some t) :
    (c :: text).foldlM step? (.code due previous) = some t :=
  foldlM_cons_eq_some.2 ⟨_, step?_of_notMem_signs other, run⟩

theorem run_identParts {due : List Char} {previous : Char} (parts : text.all isIdentPart = true) :
    ∃ last, text.foldlM step? (.code due previous) = some (.code due last) := by
  induction text generalizing previous with
  | nil => exact ⟨previous, rfl⟩
  | cons c text ih =>
    rw [List.all_cons, Bool.and_eq_true] at parts
    obtain ⟨last, run⟩ := @ih c parts.2
    exact ⟨last, run_cons (notMem_signs_of_isIdentPart parts.1) run⟩

theorem run_literalParts {due : List Char} {mark : QuoteMark}
    (parts : text.all isLiteralPart = true) :
    text.foldlM step? (.literal due mark) = some (.literal due mark) := by
  induction text with
  | nil => rfl
  | cons c text ih =>
    rw [List.all_cons, Bool.and_eq_true] at parts
    refine foldlM_cons_eq_some.2 ⟨_, ?_, ih parts.2⟩
    have other : c ≠ mark.char := by
      cases mark <;> exact ne_of_isLiteralPart parts.1 (by simp [QuoteMark.char])
    simp [step?, other, parts.1]

end TypeState

theorem Identifier.all_isIdentPart (name : Identifier) : name.text.all isIdentPart = true := by
  simp [text, isIdentPart_of_isIdentStart name.starts, name.continues]

theorem PropertyKey.run_text (key : PropertyKey) (previous : Char) :
    ∃ last, key.text.foldlM TypeState.step? (.code [] previous) = some (.code [] last) := by
  cases key with
  | identifier name => exact TypeState.run_identParts name.all_isIdentPart
  | quoted mark content parts =>
    refine ⟨mark.char, ?_⟩
    have enter : TypeState.step? (.code [] previous) mark.char = some (.literal [] mark) := by
      cases mark <;> rfl
    have leave : [mark.char].foldlM TypeState.step? (.literal [] mark) = some (.code [] mark.char) := by
      simp [TypeState.step?]
    exact TypeState.foldlM_cons_eq_some.2
      ⟨_, enter, TypeState.run_append (TypeState.run_literalParts parts) leave⟩

namespace Member

variable (member : Member)

theorem run_keyed (previous : Char) :
    ∃ last, member.keyed.foldlM TypeState.step? (.code [] previous) = some (.code [] last) := by
  obtain ⟨afterKey, key⟩ := member.key.run_text previous
  obtain ⟨last, type⟩ := member.type.nested
  refine ⟨last, ?_⟩
  rw [keyed, List.append_assoc]
  apply TypeState.run_append key
  have colon (before : Char) : (':' :: ' ' :: member.type.text).foldlM TypeState.step? (.code [] before) =
      some (.code [] last) :=
    TypeState.run_cons (by decide) (TypeState.run_cons (by decide) type)
  cases member.optional with
  | false => exact colon afterKey
  | true => exact TypeState.run_cons (by decide) (colon '?')

theorem run_text (previous : Char) :
    ∃ last, member.text.foldlM TypeState.step? (.code [] previous) = some (.code [] last) := by
  cases readonly : member.readonly with
  | false => simpa [text, readonly] using member.run_keyed previous
  | true =>
    obtain ⟨afterWord, word⟩ : ∃ last, "readonly".toList.foldlM TypeState.step? (.code [] previous) =
      some (.code [] last) := TypeState.run_identParts (by decide +kernel)
    obtain ⟨last, keyed⟩ := member.run_keyed ' '
    refine ⟨last, ?_⟩
    simp only [text, readonly, if_true]
    apply TypeState.run_append word
    exact TypeState.run_cons (by decide) keyed

theorem stripFrom_print (rest : List Char) :
    stripFrom .code (member.print ++ rest) = member.print ++ stripFrom .code rest := by
  obtain ⟨last, run⟩ := member.run_text ' '
  have ending : stripFrom .code (member.ending.text ++ rest) =
      member.ending.text ++ stripFrom .code rest := by
    cases member.ending <;> simp [MemberEnd.text, stripFrom, isQuote]
  have bound : ∀ c ∈ (member.ending.text ++ rest).head?, c ≠ '/' ∧ c ≠ '*' := by
    cases member.ending <;> simp [MemberEnd.text]
  calc stripFrom .code (member.print ++ rest)
    _ = stripFrom .code (member.text ++ (member.ending.text ++ rest)) := by
      rw [print, List.append_assoc]
    _ = member.text ++ stripFrom .code (member.ending.text ++ rest) := TypeState.stripFrom_run run bound
    _ = member.print ++ stripFrom .code rest := by rw [ending, print, List.append_assoc]

theorem braces_split?_print (rest : List Char) (p q : Char) :
    Delimiters.braces.split? p 0 (member.print ++ rest) =
      (Delimiters.braces.split? q 0 rest).map fun (inner, after) => (member.print ++ inner, after) := by
  obtain ⟨last, run⟩ := member.run_text ' '
  have ending : Delimiters.braces.split? ' ' 0 (member.ending.text ++ rest) =
      (Delimiters.braces.split? q 0 rest).map fun (inner, after) => (member.ending.text ++ inner, after) := by
    cases member.ending <;>
      simp [MemberEnd.text, Delimiters.split?, Delimiters.braces, Option.map_map, Function.comp_def] <;>
      exact congrArg _ (braces_split?_previous _ _ _)
  calc Delimiters.braces.split? p 0 (member.print ++ rest)
    _ = Delimiters.braces.split? p 0 (member.text ++ (member.ending.text ++ rest)) := by
      rw [print, List.append_assoc]
    _ = (Delimiters.braces.split? ' ' 0 (member.ending.text ++ rest)).map
        fun (inner, after) => (member.text ++ inner, after) := TypeState.braces_split?_run run 0 p ' '
    _ = _ := by
      rw [ending, Option.map_map]
      simp [Function.comp_def, print]

theorem piecesFrom_separator {c : Char} (separator : c ∈ [';', ',', '\n']) (previous : Char)
    (rest : List Char) :
    piecesFrom ⟨0, previous, none⟩ (c :: rest) = [] :: piecesFrom ⟨0, c, none⟩ rest := by
  simp only [List.mem_cons, List.not_mem_nil, or_false] at separator
  rcases separator with rfl | rfl | rfl <;>
    simp [piecesFrom, PieceState.ends, PieceState.next, PieceState.depthStep, isQuote]

theorem piecesFrom_print (rest : List Char) (previous : Char) :
    ∃ last more, (∀ piece ∈ more, piece = []) ∧
      piecesFrom ⟨0, previous, none⟩ (member.print ++ rest) =
        member.text :: more ++ piecesFrom ⟨0, last, none⟩ rest := by
  obtain ⟨last, run⟩ := member.run_text previous
  have pieces : piecesFrom ⟨0, previous, none⟩ (member.print ++ rest) =
      (piecesFrom ⟨0, last, none⟩ (member.ending.text ++ rest)).modifyHead (member.text ++ ·) := by
    obtain ⟨state, agrees, pieces⟩ := TypeState.piecesFrom_run .code run
    cases agrees
    rw [print, List.append_assoc]
    exact pieces
  obtain ⟨c, separator, one | ⟨-, two⟩⟩ := member.ending.text_eq
  · exact ⟨c, [], by simp, by simp [pieces, one, piecesFrom_separator separator]⟩
  · exact ⟨'\n', [[]], by simp, by simp [pieces, two, piecesFrom_separator separator, piecesFrom_separator]⟩

end Member

theorem PropertyKey.propertyName?_text (key : PropertyKey) {rest : List Char}
    (stop : ∀ c ∈ rest.head?, isIdentPart c = false) :
    propertyName? (key.text ++ rest) = some (key.name, rest) := by
  cases key with
  | identifier name =>
    have start := isIdentPart_of_isIdentStart name.starts
    have unquoted : ¬ (name.first = '\x27' ∨ name.first = '\x22') := by
      rintro (quote | quote) <;> simp [quote] at start <;> exact absurd start (by decide)
    simp only [text, Identifier.text, List.cons_append, propertyName?, unquoted, if_false]
    exact ident?_append name.starts (List.all_eq_true.1 name.continues) stop
  | quoted mark content parts =>
    have unmarked : ∀ c ∈ content, c ≠ '\x27' ∧ c ≠ '\x22' := by
      intro c hc
      have part := List.all_eq_true.1 parts c hc
      exact ⟨ne_of_isLiteralPart part (by simp), ne_of_isLiteralPart part (by simp)⟩
    have cut : (content ++ mark.char :: rest).takeWhile (fun c => decide (c ≠ mark.char)) = content ∧
        (content ++ mark.char :: rest).dropWhile (fun c => decide (c ≠ mark.char)) = mark.char :: rest := by
      apply span_append
      · intro c hc
        cases mark <;> simp [QuoteMark.char, unmarked c hc]
      · simp
    have edges (text : List Char) (inner : ∀ c ∈ text, c ∈ content) :
        text.dropWhile (fun d => d == '\x27' || d == '\x22') = text := by
      cases text with
      | nil => rfl
      | cons c text => simp [unmarked c (inner c (by simp))]
    have opening : mark.char = '\x27' ∨ mark.char = '\x22' := by cases mark <;> simp [QuoteMark.char]
    simp only [text, List.cons_append, List.append_assoc, List.nil_append, propertyName?, opening, if_true,
      cut.1, cut.2]
    rw [edges content (by simp), edges content.reverse (by simp), List.reverse_reverse]
    rfl

def leads (c : Char) : Bool :=
  isIdentStart c || c == '\x27' || c == '\x22'

theorem not_isBlank_of_leads {c : Char} (first : leads c = true) : isBlank c = false := by
  simp only [leads, Bool.or_eq_true, beq_iff_eq] at first
  rcases first with (start | rfl) | rfl
  · exact not_isBlank_of_isIdentPart (isIdentPart_of_isIdentStart start)
  · decide
  · decide

namespace Member

variable (member : Member)

theorem keyed_eq_cons : ∃ c rest, leads c = true ∧ member.keyed = c :: rest := by
  cases key : member.key with
  | identifier name =>
    exact ⟨name.first, _, by simp [leads, name.starts], by simp [keyed, key, PropertyKey.text, Identifier.text]; rfl⟩
  | quoted mark content parts =>
    exact ⟨mark.char, _, by cases mark <;> rfl, by simp [keyed, key, PropertyKey.text]; rfl⟩

theorem text_eq_cons : ∃ c rest, leads c = true ∧ member.text = c :: rest := by
  cases readonly : member.readonly with
  | false => simpa [text, readonly] using member.keyed_eq_cons
  | true => exact ⟨'r', _, by decide, by simp [text, readonly]; rfl⟩

theorem text_eq_append : ∃ front, member.text = front ++ ' ' :: member.type.text := by
  have keyed : ∃ front, member.keyed = front ++ ' ' :: member.type.text :=
    ⟨member.key.text ++ (if member.optional then ['?'] else []) ++ [':'], by simp [keyed]⟩
  obtain ⟨front, split⟩ := keyed
  cases readonly : member.readonly with
  | false => exact ⟨front, by simp [text, readonly, split]⟩
  | true => exact ⟨"readonly".toList ++ ' ' :: front, by simp [text, readonly, split]⟩

theorem trim_text : trim member.text = member.text := by
  apply trim_eq_self
  · obtain ⟨c, rest, first, split⟩ := member.text_eq_cons
    simpa [split] using not_isBlank_of_leads first
  · obtain ⟨front, split⟩ := member.text_eq_append
    have last : member.text.getLast? = member.type.text.getLast? := by
      cases type : member.type.text with
      | nil => exact absurd type member.type.nonempty
      | cons c rest => simp [split, type, List.getLast?_append, List.getLast?_cons]
    rw [last]
    exact getLast?_of_trim_eq_self member.type.trimmed

theorem opensMidway_text : opensMidway member.text = false := by
  obtain ⟨c, rest, first, split⟩ := member.text_eq_cons
  have signs : ['|', '&', '='].any leads = false := by decide
  have other : ∀ d ∈ ['|', '&', '='], d ≠ c := by
    rintro d hd rfl
    exact List.any_eq_false.1 signs d hd first
  simp [opensMidway, startsWith, after?, split, other]

theorem endsMidway_text : endsMidway member.text = false := by
  obtain ⟨front, split⟩ := member.text_eq_append
  have inType (sign : List Char) (noSpace : ' ' ∉ sign) (ends : sign <:+ member.text) :
      sign <:+ member.type.text := by
    rw [split] at ends
    cases List.suffix_or_suffix_of_suffix ends (List.suffix_append front _) with
    | inl short =>
      cases List.suffix_cons_iff.1 short with
      | inl whole => simp [whole] at noSpace
      | inr inner => exact inner
    | inr long => exact absurd (long.subset (by simp)) noSpace
  have none_ends : ∀ sign ∈ ["|", "&", ":", "=>"], endsWith sign.toList member.text = false := by
    intro sign known
    rw [Bool.eq_false_iff, Ne, endsWith_iff]
    intro ends
    have noSpace : ∀ sign ∈ ["|", "&", ":", "=>"], ' ' ∉ sign.toList := by decide
    exact member.type.finished sign known (inType _ (noSpace sign known) ends)
  simpa [endsMidway] using none_ends

theorem typedName?_keyed : typedName? member.keyed = some (member.key.name, member.type.text) := by
  have question : isBlank '?' = false := by decide
  have colon : isBlank ':' = false := by decide
  have space : isBlank ' ' = true := by decide
  have type : trim (' ' :: member.type.text) = member.type.text := by
    rw [trim, trimStart_cons_of_blank space]
    exact member.type.trimmed
  have stop : ∀ c ∈ ((if member.optional then ['?'] else []) ++ ':' :: ' ' :: member.type.text).head?,
      isIdentPart c = false := by
    cases member.optional <;> simp <;> decide
  rw [keyed, List.append_assoc, typedName?, member.key.propertyName?_text stop]
  cases member.optional <;>
    simp [char?, trimStart_cons_of_not_blank, question, colon, type, member.type.nonempty]

theorem keyword?_keyed_eq_none {word : String} (letters : word.toList.all isIdentPart = true)
    (rest : List Char) : keyword? word (member.keyed ++ rest) = none := by
  cases key : member.key with
  | identifier name =>
    simp only [keyed, key, PropertyKey.text, List.append_assoc]
    apply keyword?_ident_eq_none letters (List.all_eq_true.1 name.all_isIdentPart)
    cases member.optional <;> simp <;> decide
  | quoted mark content parts =>
    simp only [keyed, key, PropertyKey.text, List.append_assoc, List.cons_append]
    have none_yet : ∀ c ∈ ([] : List Char), isIdentPart c = true := by simp
    apply keyword?_ident_eq_none letters none_yet
    cases mark <;> simp [QuoteMark.char] <;> decide

theorem property?_text : property? member.text = some (member.key.name, member.type.text) := by
  cases readonly : member.readonly with
  | false =>
    have nothing : keyword? "readonly" (member.keyed ++ []) = none :=
      member.keyword?_keyed_eq_none (by decide +kernel) []
    rw [List.append_nil] at nothing
    simp [property?, text, readonly, nothing, typedName?_keyed]
  | true =>
    obtain ⟨c, rest, first, split⟩ := member.keyed_eq_cons
    have keyword : keyword? "readonly" ("readonly".toList ++ ' ' :: member.keyed) = some member.keyed := by
      rw [split]
      exact keyword?_append_space (not_isBlank_of_leads first)
    simp only [property?, text, readonly, if_true, keyword, Option.bind_some, typedName?_keyed]
    rfl

end Member

end FrontendAtlas.Declaration

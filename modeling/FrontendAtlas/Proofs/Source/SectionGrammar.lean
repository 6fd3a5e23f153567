import FrontendAtlas.Proofs.Bytes.TypeSection
import FrontendAtlas.Proofs.Source.LiteralContents
import FrontendAtlas.Proofs.Source.ReturnType

/-! A grammar of type sections.  Words, literals and bracketed groups follow each other in any order, an
object type stands at the front of an atom only, and atoms are joined by connectors.  The pass that looks
for the end of a section comes to the end of each of its texts and expects no further type there. -/

namespace FrontendAtlas.Source

open FrontendAtlas.Text

def Bracket.delimiters (bracket : Bracket) : Delimiters :=
  ⟨bracket.opener, bracket.closer⟩

def isGroupLetter (c : Char) : Bool :=
  c ∉ ['(', '[', '<', ')', ']', '>', '{', '}', '=', '\x27', '\x22', '\x60']

inductive GroupText : List Char → Prop
  | nil : GroupText []
  | letter {c : Char} {rest : List Char} (plain : isGroupLetter c = true) (next : GroupText rest) :
    GroupText (c :: rest)
  | arrow {rest : List Char} (next : GroupText rest) : GroupText ('=' :: '>' :: rest)
  | default {rest : List Char} (next : GroupText rest) : GroupText ('=' :: rest)
  | object {fields rest : List Char} (balanced : Delimiters.braces.Balanced fields) (next : GroupText rest) :
    GroupText ('{' :: (fields ++ '}' :: rest))
  | group (bracket : Bracket) {inner rest : List Char} (inside : GroupText inner)
    (closes : bracket.delimiters.closesAfter (inner.getLast?.getD bracket.opener) = true)
    (next : GroupText rest) : GroupText (bracket.opener :: (inner ++ bracket.closer :: rest))

inductive TypeItem : List Char → Prop
  | word {text : List Char} (nonempty : text ≠ []) (letters : text.all isTypeLetter = true) : TypeItem text
  | literal {quote : Char} {contents : List Char} (quoted : isQuote quote = true)
    (plain : PlainContents quote contents) : TypeItem (quote :: (contents ++ [quote]))
  | group (bracket : Bracket) {inner : List Char} (inside : GroupText inner)
    (closes : bracket.delimiters.closesAfter (inner.getLast?.getD bracket.opener) = true) :
    TypeItem (bracket.opener :: (inner ++ [bracket.closer]))

/-- One or more items.  Two words with nothing between them are one word. -/
inductive TypeItems : List Char → Prop
  | one {text : List Char} (item : TypeItem text) : TypeItems text
  | more {text gap rest : List Char} (item : TypeItem text) (blank : gap.all isAsciiBlank = true)
    (next : TypeItems rest) : TypeItems (text ++ (gap ++ rest))

inductive TypeAtom : List Char → Prop
  | items {text : List Char} (items : TypeItems text) : TypeAtom text
  | object {fields : List Char} (balanced : Delimiters.braces.Balanced fields) :
    TypeAtom ('{' :: (fields ++ ['}']))
  | objectItems {fields gap text : List Char} (balanced : Delimiters.braces.Balanced fields)
    (blank : gap.all isAsciiBlank = true) (items : TypeItems text) :
    TypeAtom ('{' :: (fields ++ '}' :: (gap ++ text)))

inductive TypeSection : List Char → Prop
  | one {text : List Char} (atom : TypeAtom text) : TypeSection text
  | more {text before after rest : List Char} {connector : Char} (atom : TypeAtom text)
    (blankBefore : before.all isAsciiBlank = true) (known : connector ∈ ['|', '&', ','])
    (blankAfter : after.all isAsciiBlank = true) (next : TypeSection rest) :
    TypeSection (text ++ (before ++ connector :: (after ++ rest)))

variable {depth : Nat} {expected : Bool} {text rest : List Char}

theorem sectionEnd?_groupLetter {c : Char} (plain : isGroupLetter c = true) : ∃ later,
    sectionEnd? (.types (depth + 1) expected) (c :: rest) = sectionEnd? (.types (depth + 1) later) rest := by
  simp only [isGroupLetter, List.mem_cons, List.not_mem_nil, or_false, not_or, decide_eq_true_eq] at plain
  have ordinary : Bytes.Ordinary c (depth + 1) rest :=
    ⟨by simp [plain], by simp [plain], by simp, by simp [isQuote, plain]⟩
  have same : (Bytes.sectionState c (depth + 1) expected).1 = depth + 1 := by
    rw [Bytes.sectionState, if_neg (by simp [plain]), if_neg (by simp [plain])]
    split_ifs <;> rfl
  rw [Bytes.sectionEnd?_ordinary ordinary, same]
  exact ⟨_, rfl⟩

theorem sectionEnd?_default (alone : rest.head? ≠ some '>') :
    sectionEnd? (.types depth expected) ('=' :: rest) = sectionEnd? (.types depth true) rest := by
  have ordinary : Bytes.Ordinary '=' depth rest := ⟨by simp [alone], by decide, by simp, by decide⟩
  exact Bytes.sectionEnd?_ordinary ordinary

theorem sectionEnd?_arrow :
    sectionEnd? (.types (depth + 1) expected) ('=' :: '>' :: rest) = sectionEnd? (.types (depth + 1) true) rest := by
  simp [sectionEnd?]

theorem GroupText.head?_ne (inside : GroupText text) : text.head? ≠ some '>' := by
  cases inside with
  | nil => simp
  | letter plain next =>
    rintro opens
    cases opens
    simp [isGroupLetter] at plain
  | arrow | default | object => simp
  | group bracket => cases bracket <;> simp [Bracket.opener]

theorem GroupText.letters (plain : text.all isGroupLetter = true) (next : GroupText rest) :
    GroupText (text ++ rest) := by
  induction text with
  | nil => exact next
  | cons c text ih =>
    rw [List.all_cons, Bool.and_eq_true] at plain
    exact .letter plain.1 (ih plain.2)

theorem Bracket.head?_ne_of_closes {bracket : Bracket} {inner : List Char}
    (closes : bracket.delimiters.closesAfter (inner.getLast?.getD bracket.opener) = true)
    (ends : inner.getLast? = some '=') : (bracket.closer :: rest).head? ≠ some '>' := by
  intro angle
  rw [List.head?_cons, Option.some.injEq] at angle
  simp [Delimiters.closesAfter, Bracket.delimiters, ends, angle] at closes

/-- The pass comes out of the inside of a group as deep in brackets as it went in.  An equals sign at its end
must not become an arrow. -/
theorem GroupText.sectionEnd?_append (inside : GroupText text)
    (bound : text.getLast? = some '=' → rest.head? ≠ some '>') : ∃ later,
      sectionEnd? (.types (depth + 1) expected) (text ++ rest) = sectionEnd? (.types (depth + 1) later) rest := by
  induction inside generalizing depth expected rest with
  | nil => exact ⟨expected, rfl⟩
  | letter plain next ih =>
    obtain ⟨later, pass⟩ := sectionEnd?_groupLetter plain
    rw [List.cons_append, pass]
    exact ih fun ends => bound (by simp [List.getLast?_cons, ends])
  | arrow next ih =>
    rw [List.cons_append, List.cons_append, sectionEnd?_arrow]
    exact ih fun ends => bound (by simp [List.getLast?_cons, ends])
  | @default inner next ih =>
    have alone : (inner ++ rest).head? ≠ some '>' := by
      cases inner with
      | nil => exact bound rfl
      | cons c inner => exact next.head?_ne
    rw [List.cons_append, sectionEnd?_default alone]
    exact ih fun ends => bound (by simp [List.getLast?_cons, ends])
  | object balanced next ih =>
    rw [List.cons_append, List.append_assoc, List.cons_append,
      sectionEnd?_object balanced (.inl (Nat.succ_pos depth))]
    exact ih fun ends => bound (by simp [List.getLast?_cons, ends])
  | group bracket inside closes next inside_ih next_ih =>
    obtain ⟨later, pass⟩ := inside_ih (Bracket.head?_ne_of_closes closes)
    rw [List.cons_append, List.append_assoc, List.cons_append, sectionEnd?_opener, pass, sectionEnd?_closer]
    exact next_ih fun ends => bound (by simp [List.getLast?_cons, ends])

theorem sectionEnd?_blanks {gap : List Char} (blank : gap.all isAsciiBlank = true) :
    sectionEnd? (.types depth expected) (gap ++ rest) = sectionEnd? (.types depth expected) rest := by
  induction gap with
  | nil => rfl
  | cons c gap ih =>
    rw [List.all_cons, Bool.and_eq_true] at blank
    rw [List.cons_append, sectionEnd?_blank blank.1, ih blank.2]

theorem sectionEnd?_quoted_cons {quote c : Char} (plain : c ≠ '\\') :
    sectionEnd? (.quoted depth quote) (c :: rest) =
      sectionEnd? (if breaksLiteral quote c ∨ c = quote then .types depth false else .quoted depth quote) rest := by
  rw [sectionEnd?]
  exact fun d rest escape => absurd escape plain

theorem sectionEnd?_contents {quote : Char} {contents : List Char} (quoted : isQuote quote = true)
    (plain : PlainContents quote contents) :
    sectionEnd? (.quoted depth quote) (contents ++ quote :: rest) = sectionEnd? (.types depth false) rest := by
  induction contents with
  | nil => rw [List.nil_append, sectionEnd?_quoted_cons (Bytes.ascii_of_isQuote quoted).2, if_pos (.inr rfl)]
  | cons c contents ih =>
    obtain ⟨⟨stop, escape, line⟩, plain⟩ := plain.tail
    rw [List.cons_append, sectionEnd?_quoted_cons escape, if_neg (by simp [breaksLiteral, stop, line]), ih plain]

theorem TypeItem.sectionEnd?_append (item : TypeItem text) (rest : List Char) :
    sectionEnd? (.types 0 expected) (text ++ rest) = sectionEnd? (.types 0 false) rest := by
  cases item with
  | word nonempty letters => exact sectionEnd?_word nonempty letters
  | literal quoted plain =>
    rw [List.cons_append, List.append_assoc, Bytes.sectionEnd?_quote quoted]
    exact sectionEnd?_contents quoted plain
  | group bracket inside closes =>
    obtain ⟨later, pass⟩ := inside.sectionEnd?_append (Bracket.head?_ne_of_closes closes)
    rw [List.cons_append, List.append_assoc, sectionEnd?_opener]
    exact pass.trans (sectionEnd?_closer bracket)

theorem TypeItems.sectionEnd?_append (items : TypeItems text) (rest : List Char) :
    sectionEnd? (.types 0 expected) (text ++ rest) = sectionEnd? (.types 0 false) rest := by
  induction items generalizing expected with
  | one item => exact item.sectionEnd?_append rest
  | more item blank next ih =>
    rw [List.append_assoc, item.sectionEnd?_append, List.append_assoc, sectionEnd?_blanks blank, ih]

theorem TypeAtom.sectionEnd?_append (atom : TypeAtom text) (opens : text.head? = some '{' → expected = true)
    (rest : List Char) :
    sectionEnd? (.types 0 expected) (text ++ rest) = sectionEnd? (.types 0 false) rest := by
  cases atom with
  | items items => exact items.sectionEnd?_append rest
  | object balanced =>
    rw [List.cons_append, List.append_assoc]
    exact sectionEnd?_object balanced (.inr (opens rfl))
  | objectItems balanced blank items =>
    rw [List.cons_append, List.append_assoc, List.cons_append, sectionEnd?_object balanced (.inr (opens rfl)),
      List.append_assoc, sectionEnd?_blanks blank, items.sectionEnd?_append]

theorem TypeSection.sectionEnd?_append (types : TypeSection text)
    (opens : text.head? = some '{' → expected = true) (rest : List Char) :
    sectionEnd? (.types 0 expected) (text ++ rest) = sectionEnd? (.types 0 false) rest := by
  induction types generalizing expected with
  | one atom => exact atom.sectionEnd?_append opens rest
  | @more text before after later connector atom blankBefore known blankAfter next ih =>
    have first : text.head? = some '{' → expected = true := by
      intro brace
      exact opens (by simp [List.head?_append, brace])
    have joins : connector ∈ ['|', '&', ',', ':', '?'] := by
      simp only [List.mem_cons, List.not_mem_nil, or_false] at known ⊢
      tauto
    rw [List.append_assoc, atom.sectionEnd?_append first, List.append_assoc, sectionEnd?_blanks blankBefore,
      List.cons_append, sectionEnd?_connector joins, List.append_assoc, sectionEnd?_blanks blankAfter]
    exact ih fun _ => rfl

/-- The end of a type section is where what follows it begins, at the brace of a body or at an arrow. -/
theorem typesEnd?_of_typeSection {types start gap after : List Char} (grammar : TypeSection types)
    (opens : expected = false → types.head? ≠ some '{') (blankStart : start.all isAsciiBlank = true)
    (blankEnd : gap.all isAsciiBlank = true) (follows : ['{'] <+: after ∨ ['=', '>'] <+: after)
    (before : List Char) :
    typesEnd? (before ++ start ++ types ++ gap ++ after) (byteLength before) expected =
      some (byteLength before + byteLength start + byteLength types + byteLength gap) := by
  have ends : sectionEnd? (.types 0 false) after = some after := by
    rcases follows with ⟨rest, rfl⟩ | ⟨rest, rfl⟩
    · simp [sectionEnd?]
    · simp [sectionEnd?]
  have object : types.head? = some '{' → expected = true := by
    cases expected with
    | true => exact fun _ => rfl
    | false => exact fun brace => absurd brace (opens rfl)
  have pass : afterTypes? expected (start ++ (types ++ (gap ++ after))) = some after := by
    rw [afterTypes?, sectionEnd?_blanks blankStart, grammar.sectionEnd?_append object,
      sectionEnd?_blanks blankEnd, ends]
  simp only [List.append_assoc, typesEnd?, Bytes.place_byteLength, pass, Option.map_some,
    Bytes.byteLength_append]
  congr 1
  omega

theorem typesEnd?_of_typeSection_generic :
    let types := "Map<K, (x: \x7ba: B\x7d) => C> | \x7bd: E\x7d[] & 'f'".toList
    TypeSection types ∧
      typesEnd? ("é:".toList ++ " ".toList ++ types ++ " ".toList ++ "=> g()".toList) 3 true = some 46 := by
  intro types
  have parameter : GroupText ("x: ".toList ++ '{' :: ("a: B".toList ++ '}' :: [])) :=
    .letters rfl (.object (by decide) .nil)
  have result : GroupText (" ".toList ++ '=' :: '>' :: (" C".toList ++ [])) :=
    .letters rfl (.arrow (.letters rfl .nil))
  have function : GroupText ("K, ".toList ++ "(x: \x7ba: B\x7d) => C".toList) :=
    .letters rfl (.group .round parameter rfl result)
  have word : TypeItem "Map".toList := .word (by decide) (by decide)
  have generic : TypeAtom ("Map".toList ++ ([] ++ "<K, (x: \x7ba: B\x7d) => C>".toList)) :=
    .items (.more word rfl (.one (.group .angle function rfl)))
  have object : TypeAtom ('{' :: ("d: E".toList ++ '}' :: ([] ++ "[]".toList))) :=
    .objectItems (by decide) rfl (.one (.group .square .nil rfl))
  have literal : TypeAtom ('\x27' :: ("f".toList ++ ['\x27'])) :=
    .items (.one (.literal rfl ⟨by decide, by decide, by decide⟩))
  have joined : TypeSection ("\x7bd: E\x7d[]".toList ++ (" ".toList ++ '&' :: (" ".toList ++ "'f'".toList))) :=
    .more object rfl (by decide) rfl (.one literal)
  have grammar : TypeSection ("Map<K, (x: \x7ba: B\x7d) => C>".toList ++
      (" ".toList ++ '|' :: (" ".toList ++ "\x7bd: E\x7d[] & 'f'".toList))) :=
    .more generic rfl (by decide) rfl joined
  exact ⟨grammar, typesEnd?_of_typeSection grammar (by simp) rfl rfl (.inr ⟨" g()".toList, rfl⟩) "é:".toList⟩

end FrontendAtlas.Source

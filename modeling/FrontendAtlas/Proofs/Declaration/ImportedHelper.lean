import FrontendAtlas.Proofs.Declaration.LiteralRequests
import FrontendAtlas.Proofs.Declaration.TypeText
import FrontendAtlas.Proofs.Path
import FrontendAtlas.Proofs.Source.Occurrence

/-! Client functions that a file imports at its head.  Whatever the lines of imports hold, and whatever
follows them, each specifier is read under its local name; so a component that calls a client function by
that name makes a request. -/

namespace FrontendAtlas.Declaration

open FrontendAtlas.Text FrontendAtlas.Source

structure Blanks where
  text : List Char
  blank : ∀ c ∈ text, isBlank c = true

structure ImportName where
  text : List Char
  nonempty : text ≠ []
  unbroken : ∀ c ∈ text, isBreak c = false

structure Specifier where
  lead : Blanks
  imported : ImportName
  renamed : Option ImportName
  trail : Blanks

namespace Specifier

def localName (specifier : Specifier) : List Char :=
  (specifier.renamed.getD specifier.imported).text

def core (specifier : Specifier) : List Char :=
  match specifier.renamed with
  | none => specifier.imported.text
  | some name => specifier.imported.text ++ (" as ".toList ++ name.text)

def text (specifier : Specifier) : List Char :=
  specifier.lead.text ++ (specifier.core ++ specifier.trail.text)

end Specifier

structure ImportLine where
  first : Specifier
  more : List Specifier
  beforeBrace : Blanks
  afterBrace : Blanks
  mark : QuoteMark
  origin : List Char
  plain : origin.all isLiteralPart = true

namespace ImportLine

def specifiers (line : ImportLine) : List Specifier :=
  line.first :: line.more

def names (line : ImportLine) : List Char :=
  line.first.text ++ line.more.flatMap fun specifier => ',' :: specifier.text

def head (line : ImportLine) : List Char :=
  "import".toList ++ (line.beforeBrace.text ++
    '{' :: (line.names ++ '}' :: (line.afterBrace.text ++ "from ".toList)))

theorem head_eq (line : ImportLine) : line.head = "import".toList ++ (line.beforeBrace.text ++
    '{' :: (line.names ++ '}' :: (line.afterBrace.text ++ "from ".toList))) :=
  rfl

def statement (line : ImportLine) : List Char :=
  line.head ++ line.mark.char :: (line.origin ++ [line.mark.char])

def text (line : ImportLine) : List Char :=
  line.statement ++ [';', '\n']

end ImportLine

def NamesModule (path name : List Char) : Prop :=
  ∃ folder ending, path = folder ++ (name ++ ending) ∧ (∀ c ∈ folder.getLast?, c = '/') ∧
    '/' ∉ name ++ ending ∧ '.' ∉ name ∧ ∀ c ∈ ending.head?, c = '.'

theorem moduleName_eq {path name : List Char} (isName : NamesModule path name) : moduleName path = name := by
  obtain ⟨folder, ending, rfl, slash, apart, undotted, dot⟩ := isName
  have alone : splitAt (· == '/') (name ++ ending) = [name ++ ending] := by
    apply splitAt_eq_self
    intro c member
    exact beq_false_of_ne (ne_of_mem_of_not_mem member apart)
  have last : (splitAt (· == '/') (folder ++ (name ++ ending))).getLast? = some (name ++ ending) := by
    rcases List.eq_nil_or_concat folder with rfl | ⟨folder, c, rfl⟩
    · rw [List.nil_append, alone]
      rfl
    · cases slash c (by simp)
      rw [List.concat_eq_append, List.append_assoc, List.singleton_append, splitAt_append_cons rfl, alone]
      simp
  have before : ∀ c ∈ name, (decide (c ≠ '.')) = true := by
    intro c member
    exact decide_eq_true (ne_of_mem_of_not_mem member undotted)
  have stop : ∀ c ∈ ending.head?, (decide (c ≠ '.')) = false := by
    intro c member
    simp [dot c member]
  rw [moduleName, last]
  exact (span_append before stop).1

section Characters

variable {d : Char}

theorem notMem_of_all {word : List Char} (letters : word.all (fun c => isBlank c || !isBreak c) = true)
    (visible : isBlank d = false) (sign : isBreak d = true) : d ∉ word := by
  intro member
  simpa [visible, sign] using List.all_eq_true.1 letters d member

theorem Blanks.notMem (gap : Blanks) (visible : isBlank d = false) : d ∉ gap.text := by
  intro member
  exact Bool.false_ne_true (visible.symm.trans (gap.blank d member))

theorem Blanks.trimStart_append (gap : Blanks) (rest : List Char) :
    trimStart (gap.text ++ rest) = trimStart rest :=
  List.dropWhile_append_of_pos gap.blank

theorem ImportName.notMem (name : ImportName) (sign : isBreak d = true) : d ∉ name.text := by
  intro member
  exact Bool.false_ne_true ((name.unbroken d member).symm.trans sign)

theorem ImportName.visible (name : ImportName) {c : Char} (member : c ∈ name.text) : isBlank c = false := by
  by_contra blank
  exact name.notMem (isBreak_of_isBlank (Bool.not_eq_false _ ▸ blank)) member

theorem ImportName.trim_text (name : ImportName) : trim name.text = name.text := by
  apply trim_eq_self
  · intro c first
    exact name.visible (List.mem_of_mem_head? first)
  · intro c last
    exact name.visible (List.mem_of_getLast? last)

namespace Specifier

variable (specifier : Specifier)

theorem exists_core_eq : ∃ more, specifier.core = specifier.imported.text ++ more := by
  rw [core]
  split
  · exact ⟨[], (List.append_nil _).symm⟩
  · exact ⟨_, rfl⟩

theorem trim_text : trim specifier.text = specifier.core := by
  obtain ⟨more, split⟩ := specifier.exists_core_eq
  rw [text, trim_append_blanks specifier.lead.blank specifier.trail.blank]
  apply trim_eq_self
  · intro c first
    rw [split, List.head?_append_of_ne_nil _ specifier.imported.nonempty] at first
    exact specifier.imported.visible (List.mem_of_mem_head? first)
  · intro c last
    rw [core] at last
    cases renamed : specifier.renamed with
    | none =>
      rw [renamed] at last
      exact specifier.imported.visible (List.mem_of_getLast? last)
    | some name =>
      simp only [renamed, ← List.append_assoc, List.getLast?_append_of_ne_nil _ name.nonempty] at last
      exact name.visible (List.mem_of_getLast? last)

theorem notMem_text (visible : isBlank d = false) (sign : isBreak d = true) : d ∉ specifier.text := by
  have core : d ∉ specifier.core := by
    rw [Specifier.core]
    split
    · exact specifier.imported.notMem sign
    next name _ =>
      simp only [List.mem_append, not_or]
      exact ⟨specifier.imported.notMem sign, notMem_of_all (by decide) visible sign, name.notMem sign⟩
  simp only [text, List.mem_append, not_or]
  exact ⟨specifier.lead.notMem visible, core, specifier.trail.notMem visible⟩

theorem cutAt?_core : cutAt? " as ".toList specifier.core =
    specifier.renamed.map fun name => (specifier.imported.text, " as ".toList ++ name.text) := by
  have word : " as ".toList = ' ' :: "as ".toList := rfl
  have apart : ' ' ∉ specifier.imported.text := specifier.imported.notMem (by decide)
  rw [core, word]
  cases specifier.renamed with
  | none =>
    have nothing := cutAt?_append "as ".toList [] apart
    simpa [cutAt?] using nothing
  | some name =>
    dsimp only
    rw [cutAt?_append _ _ apart, List.cons_append, cutAt?_found]
    simp

theorem importedHelper?_text (known : String.ofList specifier.imported.text ∈ clientFunctions) :
    importedHelper? specifier.text = some specifier.localName := by
  have untyped : word? "type " specifier.core = none := by
    have letters : ∀ verb ∈ clientFunctions, verb.toList.head? ≠ some 't' := by decide
    have other := letters _ known
    obtain ⟨more, split⟩ := specifier.exists_core_eq
    obtain ⟨c, rest, name⟩ := List.exists_cons_of_ne_nil specifier.imported.nonempty
    rw [name, String.toList_ofList, List.head?_cons, ne_eq, Option.some.injEq] at other
    rw [split, name, word?]
    exact if_neg (Ne.symm other)
  rw [importedHelper?, specifier.trim_text]
  simp only [untyped, Option.getD_none, cutAt?_core]
  rw [localName]
  cases renamed : specifier.renamed with
  | none => simp [core, renamed, known, specifier.imported.nonempty]
  | some name => simp [specifier.imported.trim_text, name.trim_text, known, name.nonempty]

end Specifier

end Characters

theorem eq_of_cons_suffix {c : Char} {front tail inner : List Char} (absent : c ∉ front) (once : c ∉ tail)
    (stands : c :: inner <:+ front ++ c :: tail) : inner = tail := by
  induction front with
  | nil =>
    rcases List.suffix_cons_iff.1 stands with same | inside
    · exact (List.cons.inj same).2
    · exact absurd (inside.subset List.mem_cons_self) once
  | cons d front ih =>
    rw [List.mem_cons, not_or] at absent
    rcases List.suffix_cons_iff.1 stands with same | inside
    · exact absurd (List.cons.inj same).1 absent.1
    · exact ih absent.2 inside

theorem namedImport_eq_none {c : Char} (other : c ≠ 'i') (before : Option Char) (rest : List Char) :
    namedImport before (c :: rest) = none := by
  have nothing : importNames? (c :: rest) = none := by
    rw [importNames?, word?]
    exact congrArg (Option.bind · _) (if_neg (Ne.symm other))
  rw [namedImport, atWordStart]
  simp [nothing]

theorem valuesFrom_namedImport_newline (rest : List Char) :
    valuesFrom namedImport 0 (some '\n') rest = values namedImport rest := by
  have same (text : List Char) : namedImport (some '\n') text = namedImport none text := rfl
  cases rest with
  | nil => rfl
  | cons c rest => rw [values, valuesFrom_cons, valuesFrom_cons, same]

namespace ImportLine

variable (line : ImportLine) {d : Char}

def ending (line : ImportLine) (more : List Char) : List Char :=
  line.names ++ '}' :: (line.afterBrace.text ++ ("from ".toList ++ line.mark.char :: (line.origin ++ more)))

theorem splitAt_names : splitAt (· == ',') line.names = line.specifiers.map Specifier.text := by
  have alone (specifier : Specifier) : splitAt (· == ',') specifier.text = [specifier.text] := by
    apply splitAt_eq_self
    intro c member
    exact beq_false_of_ne (ne_of_mem_of_not_mem member (specifier.notMem_text (by decide) (by decide)))
  obtain ⟨first, more, -, -, -, -, -⟩ := line
  rw [names, specifiers]
  dsimp only
  induction more generalizing first with
  | nil => simpa using alone first
  | cons specifier more ih =>
    rw [List.flatMap_cons, List.cons_append, splitAt_append_cons rfl, alone, ih]
    rfl

theorem notMem_names (visible : isBlank d = false) (sign : isBreak d = true) (other : d ≠ ',') :
    d ∉ line.names := by
  simp only [names, List.mem_append, List.mem_flatMap, List.mem_cons, other, false_or, not_or, not_exists,
    not_and]
  exact ⟨line.first.notMem_text visible sign, fun specifier _ => specifier.notMem_text visible sign⟩

theorem notMem_origin (sign : d ∈ ['\x27', '\x22', '\\', '{', '}', '\n']) : d ∉ line.origin := by
  intro member
  exact ne_of_isLiteralPart (List.all_eq_true.1 line.plain d member) sign rfl

theorem notMem_head (visible : isBlank d = false) (sign : isBreak d = true) (other : d ∉ [',', '{', '}']) :
    d ∉ line.head := by
  simp only [List.mem_cons, List.not_mem_nil, or_false, not_or] at other
  simp only [head_eq, List.mem_append, List.mem_cons, other, false_or, not_or]
  exact ⟨notMem_of_all (by decide) visible sign, line.beforeBrace.notMem visible,
    line.notMem_names visible sign other.1, line.afterBrace.notMem visible,
    notMem_of_all (by decide) visible sign⟩

theorem unquoted_head : ∀ c ∈ line.head, isQuote c = false ∧ c ≠ '/' := by
  intro c member
  have apart {d : Char} (visible : isBlank d = false) (sign : isBreak d = true) (other : d ∉ [',', '{', '}']) :
      c ≠ d := ne_of_mem_of_not_mem member (line.notMem_head visible sign other)
  refine ⟨?_, apart (by decide) (by decide) (by decide)⟩
  simp only [isQuote, Bool.or_eq_false_iff, beq_eq_false_iff_ne]
  exact ⟨⟨apart (by decide) (by decide) (by decide), apart (by decide) (by decide) (by decide)⟩,
    apart (by decide) (by decide) (by decide)⟩

theorem plainContents : PlainContents line.mark.char line.origin := by
  refine ⟨?_, line.notMem_origin (by decide), line.notMem_origin (by decide)⟩
  rcases line.mark.char_eq with mark | mark <;> rw [mark] <;> exact line.notMem_origin (by decide)

theorem text_append (rest : List Char) : line.text ++ rest =
    line.head ++ line.mark.char :: (line.origin ++ line.mark.char :: ';' :: '\n' :: rest) := by
  simp [text, statement]

theorem stripComments_text (rest : List Char) :
    stripComments (line.text ++ rest) = line.text ++ stripComments rest := by
  have leave : stripFrom .code (';' :: '\n' :: rest) = ';' :: '\n' :: stripFrom .code rest := by
    simp [stripFrom, isQuote]
  rw [text_append, text_append, stripComments, stripFrom_code_append line.unquoted_head,
    TypeState.stripFrom_enter, stripFrom_contents line.mark.char_eq line.plainContents, leave]
  rfl

def code (line : ImportLine) : List Char :=
  line.head ++ [line.mark.char, line.mark.char, ';']

theorem blankLiterals_text (rest : List Char) :
    blankLiterals (line.text ++ rest) = line.code ++ '\n' :: blankLiterals rest := by
  have enter (text : List Char) : blankFrom .code (line.mark.char :: text) =
      line.mark.char :: blankFrom (.quoted line.mark.char false) text := by
    rcases line.mark.char_eq with mark | mark <;> simp [mark, blankFrom, BlankMode.enter, isQuote]
  have leave : blankFrom .code (';' :: '\n' :: rest) = ';' :: '\n' :: blankFrom .code rest := by
    simp [blankFrom, BlankMode.enter, isQuote]
  rw [text_append, blankLiterals, blankFrom_code_append fun c member => (line.unquoted_head c member).1, enter,
    blankFrom_contents line.mark.char_eq line.plainContents, leave]
  simp [code, blankLiterals]

theorem statement_eq : line.statement =
    "import".toList ++ (line.beforeBrace.text ++ '{' :: line.ending [line.mark.char]) := by
  simp [statement, head_eq, ending]

theorem statement_ne_nil : line.statement ≠ [] := by
  simp [statement]

theorem importNames?_eq (tail : List Char) :
    importNames? ("import".toList ++ (line.beforeBrace.text ++ '{' :: tail)) = some tail := by
  have brace : trimStart ('{' :: tail) = '{' :: tail := trimStart_cons_of_not_blank (by decide) tail
  rw [importNames?, word?, after?_append, Option.bind_some, line.beforeBrace.trimStart_append, brace]
  rfl

theorem span_ending (more : List Char) : (line.ending more).takeWhile (· ≠ '}') = line.names ∧
    (line.ending more).dropWhile (· ≠ '}') =
      '}' :: (line.afterBrace.text ++ ("from ".toList ++ line.mark.char :: (line.origin ++ more))) := by
  apply span_append
  · intro c member
    exact decide_eq_true (ne_of_mem_of_not_mem member (line.notMem_names (by decide) (by decide) (by decide)))
  · simp

theorem word?_from (rest : List Char) :
    word? "from" (trimStart (line.afterBrace.text ++ ("from ".toList ++ rest))) = some (' ' :: rest) := by
  rw [line.afterBrace.trimStart_append]
  rfl

theorem importOrigin?_eq (nonempty : line.origin ≠ []) (more : List Char) :
    importOrigin? (line.afterBrace.text ++
      ("from ".toList ++ line.mark.char :: (line.origin ++ line.mark.char :: more))) = some (line.origin, more) := by
  have opens : trimStart (' ' :: line.mark.char :: (line.origin ++ line.mark.char :: more)) =
      line.mark.char :: (line.origin ++ line.mark.char :: more) := by
    rw [trimStart_cons_of_blank (by decide), trimStart_cons_of_not_blank line.mark.not_isBlank_char]
  have edge : (line.mark.char == '\x27' || line.mark.char == '\x22') = true := by
    simpa using line.mark.char_eq
  have inside : ∀ c ∈ line.origin, (!(c == '\x27' || c == '\x22')) = true := by
    intro c member
    have single : c ≠ '\x27' := ne_of_mem_of_not_mem member (line.notMem_origin (by decide))
    have double : c ≠ '\x22' := ne_of_mem_of_not_mem member (line.notMem_origin (by decide))
    simp [single, double]
  have stop : ∀ c ∈ (line.mark.char :: more).head?, (!(c == '\x27' || c == '\x22')) = false := by
    rintro c ⟨⟩
    rw [edge]
    rfl
  have cut := span_append inside stop
  rw [importOrigin?, line.word?_from]
  simp only [Option.bind_eq_bind, Option.bind_some, opens, cut.1, cut.2]
  obtain ⟨c, origin, same⟩ := List.exists_cons_of_ne_nil nonempty
  simp [same, edge]

theorem namedImport_statement (nonempty : line.origin ≠ []) :
    namedImport none line.statement = some ((line.names, line.origin), []) := by
  have brace (rest : List Char) : char? '}' ('}' :: rest) = some rest := rfl
  rw [statement_eq, namedImport, atWordStart]
  simp only [Option.any_none, Bool.false_eq_true, if_false, Option.bind_eq_bind, line.importNames?_eq,
    Option.bind_some, line.span_ending, brace, line.importOrigin?_eq nonempty]
  rfl

theorem opensImport_suffix {rest : List Char} (inside : rest <:+ line.head ++ line.mark.char :: line.origin) :
    opensImport rest = false := by
  rw [opensImport]
  cases read : importNames? rest with
  | none => rfl
  | some inner =>
    -- there is only one opening brace in the line
    have same : inner = line.ending [] := by
      obtain ⟨after, found, brace⟩ := Option.bind_eq_some_iff.1 read
      have stands : '{' :: inner <:+ line.head ++ line.mark.char :: line.origin :=
        (char?_eq_some_iff.1 brace ▸ trimStart_suffix after).trans ((suffix_of_word? found).trans inside)
      have whole : line.head ++ line.mark.char :: line.origin =
          ("import".toList ++ line.beforeBrace.text) ++ '{' :: line.ending [] := by
        simp [head_eq, ending]
      rw [whole] at stands
      refine eq_of_cons_suffix ?_ ?_ stands
      · rw [List.mem_append, not_or]
        exact ⟨by decide, line.beforeBrace.notMem (by decide)⟩
      · have quote : '{' ≠ line.mark.char := (line.mark.char_ne '{' (by simp)).symm
        simp only [ending, List.append_nil, List.mem_append, List.mem_cons, quote, false_or, not_or]
        exact ⟨line.notMem_names (by decide) (by decide) (by decide), by decide,
          line.afterBrace.notMem (by decide), by decide, line.notMem_origin (by decide)⟩
    have quoted : originOpen (line.afterBrace.text ++
        ("from ".toList ++ line.mark.char :: (line.origin ++ []))) = false := by
      rw [originOpen, line.word?_from, Option.any_some, trimStart_cons_of_blank (by decide),
        trimStart_cons_of_not_blank line.mark.not_isBlank_char]
      rfl
    rw [same, Option.any_some, (line.span_ending []).2]
    simpa [char?] using quoted

theorem values_text (rest : List Char) : values namedImport (line.text ++ rest) =
    values namedImport line.statement ++ values namedImport rest := by
  have apart : ∀ suffix, suffix <:+ line.statement → suffix ≠ [] →
      ReadsApart namedImport suffix (';' :: '\n' :: rest) := by
    intro suffix inside nonempty
    have split : line.statement = (line.head ++ line.mark.char :: line.origin) ++ [line.mark.char] := by
      simp [statement]
    rw [split] at inside
    obtain empty | ⟨suffix, rfl, within⟩ := List.suffix_concat_iff.1 inside
    · contradiction
    · exact readsApart_namedImport line.mark.char_eq _ (line.opensImport_suffix within)
  have past : valuesFrom namedImport 0 (line.statement.getLast?.or none) (';' :: '\n' :: rest) =
      values namedImport rest := by
    rw [valuesFrom_cons, namedImport_eq_none (by decide), valuesFrom_cons, namedImport_eq_none (by decide)]
    exact valuesFrom_namedImport_newline rest
  have whole : line.text ++ rest = line.statement ++ (';' :: '\n' :: rest) := by simp [text]
  rw [whole, values, valuesFrom_append apart (Nat.zero_le _), past]
  rfl

end ImportLine

section Source

variable {lines : List ImportLine} {rest : List Char}

theorem stripComments_lines : stripComments (lines.flatMap ImportLine.text ++ rest) =
    lines.flatMap ImportLine.text ++ stripComments rest := by
  induction lines with
  | nil => rfl
  | cons line lines ih =>
    rw [List.flatMap_cons, List.append_assoc, line.stripComments_text, ih, List.append_assoc]

theorem calls_lines {word : List Char} (apart : '\n' ∉ word) (called : calls (blankLiterals rest) word = true) :
    calls (blankLiterals (lines.flatMap ImportLine.text ++ rest)) word = true := by
  induction lines with
  | nil => exact called
  | cons line lines ih =>
    rw [List.flatMap_cons, List.append_assoc, line.blankLiterals_text]
    exact calls_append (by decide) apart line.code ih

theorem mem_values_lines {line : ImportLine} (listed : line ∈ lines) (nonempty : line.origin ≠ []) :
    (line.names, line.origin) ∈ values namedImport (lines.flatMap ImportLine.text ++ rest) := by
  induction lines with
  | nil => cases listed
  | cons other lines ih =>
    rw [List.flatMap_cons, List.append_assoc, other.values_text, List.mem_append]
    rcases List.mem_cons.1 listed with rfl | listed
    · have found := line.namedImport_statement nonempty
      obtain ⟨c, text, same⟩ := List.exists_cons_of_ne_nil line.statement_ne_nil
      rw [same] at found ⊢
      left
      rw [values, valuesFrom_cons, found]
      exact List.mem_cons_self
    · exact .inr (ih listed)

theorem mem_importedHelpers_lines {line : ImportLine} (listed : line ∈ lines) {name : List Char}
    (isName : NamesModule line.origin name) (client : String.ofList name ∈ clientObjects) {specifier : Specifier}
    (imports : specifier ∈ line.specifiers) (known : String.ofList specifier.imported.text ∈ clientFunctions) :
    specifier.localName ∈ importedHelpers (lines.flatMap ImportLine.text ++ rest) := by
  have nonempty : line.origin ≠ [] := by
    intro empty
    rw [← moduleName_eq isName, empty] at client
    exact absurd client (by decide)
  rw [importedHelpers_eq, List.mem_flatMap]
  refine ⟨_, mem_values_lines listed nonempty, ?_⟩
  rw [if_pos (by rwa [moduleName_eq isName]), line.splitAt_names, List.mem_filterMap]
  exact ⟨specifier.text, List.mem_map_of_mem imports, specifier.importedHelper?_text known⟩

end Source

/-- If the source begins with lines of imports, one of them imports a function of the shared client, and the rest
of the source calls it by its local name, then the component of the source makes requests. -/
theorem imported_helper_call_detected {lines : List ImportLine} {rest : List Char} {line : ImportLine}
    (listed : line ∈ lines) {name : List Char} (isName : NamesModule line.origin name)
    (client : String.ofList name ∈ clientObjects) {specifier : Specifier} (imports : specifier ∈ line.specifiers)
    (known : String.ofList specifier.imported.text ∈ clientFunctions)
    (called : calls (blankLiterals (stripComments rest)) specifier.localName = true) {file path : String}
    {hooks : NameSet} {component : Component}
    (found : component? (lines.flatMap ImportLine.text ++ rest) file path hooks = some component) :
    component.callsNetwork = true := by
  have apart : '\n' ∉ specifier.localName := (specifier.renamed.getD specifier.imported).notMem (by decide)
  have requests : makesRequest (lines.flatMap ImportLine.text ++ stripComments rest)
      (blankLiterals (lines.flatMap ImportLine.text ++ stripComments rest)) = true := by
    rw [makesRequest, Bool.or_eq_true, List.any_eq_true]
    exact .inr ⟨_, mem_importedHelpers_lines listed isName client imports known, calls_lines apart called⟩
  have reads := map_callsNetwork_component? (lines.flatMap ImportLine.text ++ rest) file path hooks
  rw [found, stripComments_lines, requests] at reads
  split at reads
  · exact Option.some.inj reads
  · cases reads

def ImportName.ofString (word : String)
    (proper : (!word.toList.isEmpty && word.toList.all fun c => !isBreak c) = true) : ImportName where
  text := word.toList
  nonempty := by
    intro empty
    rw [empty] at proper
    cases proper
  unbroken := by
    intro c member
    rw [Bool.and_eq_true] at proper
    simpa using List.all_eq_true.1 proper.2 c member

def stateImport : ImportLine :=
  let space : Blanks := ⟨[' '], by simp; decide⟩
  { first := ⟨space, .ofString "useState" (by decide +kernel), none, space⟩
    more := []
    beforeBrace := space
    afterBrace := space
    mark := .single
    origin := "react".toList
    plain := by decide }

def clientImport : ImportLine :=
  let line : Blanks := ⟨"\n  ".toList, by simp; decide⟩
  { first := ⟨line, .ofString "get" (by decide +kernel), none, ⟨[], by simp⟩⟩
    more := [⟨line, .ofString "post" (by decide +kernel), some (.ofString "send" (by decide +kernel)), line⟩]
    beforeBrace := ⟨[], by simp⟩
    afterBrace := ⟨[], by simp⟩
    mark := .double
    origin := "@/services/client.ts".toList
    plain := by decide }

theorem imported_helper_call_detected_renamed :
    ∃ component, component? ("import \x7b useState \x7d from 'react';\n".toList ++
        ("import\x7b\n  get,\n  post as send\n  \x7dfrom \x22@/services/client.ts\x22;\n".toList ++
        "export const Note = () => /* no get() */ send<Note>('/notes');\n".toList))
        "ui/Note.tsx" "ui/Note.tsx" ∅ = some component ∧ component.callsNetwork = true := by
  let rest := "export const Note = () => /* no get() */ send<Note>('/notes');\n".toList
  have present : (component? ([stateImport, clientImport].flatMap ImportLine.text ++ rest) "ui/Note.tsx"
      "ui/Note.tsx" ∅).isSome = true := by
    decide +kernel
  obtain ⟨component, found⟩ := Option.isSome_iff_exists.1 present
  have isName : NamesModule clientImport.origin "client".toList := by
    refine ⟨"@/services/".toList, ".ts".toList, rfl, ?_, by decide +kernel, by decide, ?_⟩
    · rintro c ⟨⟩
      rfl
    · rintro c ⟨⟩
      rfl
  have called : calls (blankLiterals (stripComments rest)) "send".toList = true := by decide +kernel
  have listed : clientImport ∈ [stateImport, clientImport] := List.mem_cons_of_mem _ List.mem_cons_self
  exact ⟨component, found, imported_helper_call_detected listed isName (by decide)
    (List.mem_cons_of_mem _ List.mem_cons_self) (by decide +kernel) called found⟩

end FrontendAtlas.Declaration

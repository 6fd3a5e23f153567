import FrontendAtlas.Proofs.Source.Balance
import FrontendAtlas.Proofs.Source.CommentPass
import FrontendAtlas.Proofs.Source.Scan

namespace FrontendAtlas.Source

open FrontendAtlas.Text

def inertWords : List String := commentSigns ++ ["export"]

structure Enclosed (d : Delimiters) where
  text : List Char
  balanced : d.Balanced text
  closable : d.closesAfter (text.getLast?.getD d.opener) = true
  inert : Lacks inertWords text

def Enclosed.noParams : Enclosed .parens where
  text := []
  balanced := rfl
  closable := rfl
  inert := by decide

theorem Enclosed.contents_braces (block : Enclosed .braces) (rest : List Char) :
    Delimiters.braces.contents ('{' :: (block.text ++ '}' :: rest)) = block.text := by
  have body : Delimiters.braces.body? ('{' :: (block.text ++ '}' :: rest)) = some (block.text, rest) :=
    Delimiters.body?_append block.balanced block.closable (by decide) rest
  simp [Delimiters.contents, body]

theorem Enclosed.body?_parens (params : Enclosed .parens) (rest : List Char) :
    Delimiters.parens.body? ('(' :: (params.text ++ ')' :: rest)) = some (params.text, rest) :=
  Delimiters.body?_append params.balanced params.closable (by decide) rest

/-- An expression that a semicolon ends.  Its first character that is no blank opens no block. -/
structure Expression where
  text : List Char
  balanced : expressionDepth? 0 text = some 0
  bare : (trimStart text).head? ≠ some '{'
  inert : Lacks inertWords text

theorem Expression.head?_ne (value : Expression) (rest : List Char) :
    (trimStart value.text ++ ';' :: rest).head? ≠ some '{' := by
  have bare := value.bare
  cases start : trimStart value.text with
  | nil => simp
  | cons c text => simpa [start] using bare

def spaced : List String → List Char → List Char
  | [], text => text
  | word :: words, text => word.toList ++ ' ' :: spaced words text

@[simp] theorem spaced_append (words : List String) (text rest : List Char) :
    spaced words text ++ rest = spaced words (text ++ rest) := by
  induction words with
  | nil => rfl
  | cons word words ih => simp [spaced, ih]

theorem keyword?_spaced {word : String} {words : List String} {text : List Char}
    (visible : ∀ c ∈ (spaced words text).head?, isBlank c = false) :
    keyword? word (spaced (word :: words) text) = some (spaced words text) :=
  keyword?_append visible

def isLeadPart (c : Char) : Bool :=
  c != '\n' && c != '/'

theorem isLeadPart_of_isIdentPart {c : Char} (part : isIdentPart c = true) : isLeadPart c = true := by
  have newline : c ≠ '\n' := by rintro rfl; exact absurd part (by decide)
  have slash : c ≠ '/' := by rintro rfl; exact absurd part (by decide)
  simp [isLeadPart, newline, slash]

theorem all_isLeadPart_spaced {words : List String} {text : List Char}
    (words_plain : ∀ word ∈ words, word.toList.all isLeadPart = true)
    (plain : text.all isLeadPart = true) : (spaced words text).all isLeadPart = true := by
  induction words with
  | nil => exact plain
  | cons word words ih =>
    rw [List.forall_mem_cons] at words_plain
    have space : isLeadPart ' ' = true := rfl
    simp [spaced, words_plain.1, ih words_plain.2, space]

theorem parametersOpen?_paren (rest : List Char) : parametersOpen? ('(' :: rest) = some rest := by
  simp [parametersOpen?, listOpen?, trimStart, isBlank]

structure ExportText where
  lead : List Char
  rest : List Char
  exported : "export".toList <+: lead
  plain : lead.all isLeadPart = true
  inert : Lacks inertWords rest

namespace ExportText

def text (declaration : ExportText) : List Char :=
  declaration.lead ++ '(' :: declaration.rest

def print (declaration : ExportText) : List Char :=
  declaration.text ++ ['\n']

theorem text_append (declaration : ExportText) (more : List Char) :
    declaration.text ++ more = declaration.lead ++ '(' :: (declaration.rest ++ more) := by
  simp [text]

theorem notMem_lead (declaration : ExportText) {c : Char} (other : isLeadPart c = false) :
    c ∉ declaration.lead := by
  intro member
  simp [List.all_eq_true.1 declaration.plain c member] at other

theorem lacks_text (declaration : ExportText) : Lacks commentSigns declaration.text := by
  rw [text, lacks_append_cons_iff (by decide)]
  refine ⟨?_, declaration.inert.subset (by simp [inertWords])⟩
  intro sign member occurs
  have slash : ∀ sign ∈ commentSigns, '/' ∈ sign.toList := by decide
  exact declaration.notMem_lead (by decide) (occurs.subset (slash sign member))

theorem lacks_flatMap_print {δ : Type} (write : δ → ExportText) (declarations : List δ) :
    Lacks commentSigns (declarations.flatMap fun d => (write d).print) := by
  induction declarations with
  | nil => simp [Lacks, commentSigns]
  | cons d declarations ih =>
    rw [List.flatMap_cons, print, List.append_assoc]
    exact (lacks_append_cons_iff (by decide)).2 ⟨(write d).lacks_text, ih⟩

theorem quiet (declaration : ExportText) : ¬ "export".toList <:+: declaration.rest :=
  declaration.inert "export" (by simp [inertWords])

theorem exists_lead (declaration : ExportText) : ∃ lead, '\n' ∉ 'e' :: lead ∧
    ∀ more, declaration.text ++ more = 'e' :: lead ++ (declaration.rest ++ more) := by
  obtain ⟨lead, split⟩ := declaration.exported
  refine ⟨"xport".toList ++ lead ++ ['('], ?_, ?_⟩
  · intro newline
    have member : '\n' ∈ declaration.lead := by simpa [← split] using newline
    exact declaration.notMem_lead (by decide) member
  · simp [text, ← split]

end ExportText

section Search

variable {α : Type} {reader : List Char → Option (α × List Char)}

def ReadsExports (reader : List Char → Option (α × List Char)) : Prop :=
  ∀ text, ¬ "export".toList <+: text → reader text = none

theorem export_not_prefix {text rest : List Char} (lacks : ¬ "export".toList <:+: text)
    (ends : ∀ c ∈ rest.head?, c = '\n') : ¬ "export".toList <+: text ++ rest := by
  intro exported
  cases rest with
  | nil => exact lacks (by simpa using exported.isInfix)
  | cons c rest =>
    cases ends c rfl
    exact lacks ((prefix_append_cons_iff (by decide)).1 exported).isInfix

theorem export_not_prefix_dropWhile {text rest : List Char} (lacks : ¬ "export".toList <:+: text)
    (ends : ∀ c ∈ rest.head?, c = '\n') :
    ¬ "export".toList <+: (text ++ rest).dropWhile fun c => c == ' ' || c == '\t' := by
  induction text with
  | nil =>
    cases rest with
    | nil => decide
    | cons c rest =>
      cases ends c rfl
      exact export_not_prefix lacks ends
  | cons c text ih =>
    have later : ¬ "export".toList <:+: text := fun occurs => lacks (List.infix_cons occurs)
    rw [List.cons_append, List.dropWhile_cons]
    split
    · exact ih later
    · exact export_not_prefix lacks ends

variable (exports : ReadsExports reader)
include exports

theorem atLineStart_inert {text rest : List Char} (lacks : ¬ "export".toList <:+: text)
    (ends : ∀ c ∈ rest.head?, c = '\n') (before : Option Char) :
    atLineStart reader before (text ++ rest) = none := by
  rw [atLineStart]
  split
  · exact exports _ (export_not_prefix_dropWhile lacks ends)
  · rfl

theorem hitsFrom_newline (position : Nat) (before : Option Char) (rest : List Char) :
    hitsFrom (atLineStart reader) 0 position before ('\n' :: rest) =
      hitsFrom (atLineStart reader) 0 (position + 1) (some '\n') rest := by
  have nothing : atLineStart reader before ([] ++ '\n' :: rest) = none :=
    atLineStart_inert exports (by decide) (by simp) before
  rw [List.nil_append] at nothing
  simp [hitsFrom, nothing]

theorem hitsFrom_inert {text rest : List Char} (lacks : ¬ "export".toList <:+: text)
    (ends : ∀ c ∈ rest.head?, c = '\n') (position : Nat) (before : Option Char) :
    ∃ position' before', hitsFrom (atLineStart reader) 0 position before (text ++ rest) =
      hitsFrom (atLineStart reader) 0 position' before' rest := by
  induction text generalizing position before with
  | nil => exact ⟨position, before, rfl⟩
  | cons c text ih =>
    have later : ¬ "export".toList <:+: text := fun occurs => lacks (List.infix_cons occurs)
    have nothing := atLineStart_inert exports lacks ends before
    obtain ⟨position', before', search⟩ := ih later (position + 1) (some c)
    refine ⟨position', before', ?_⟩
    rw [← search]
    simp only [List.cons_append] at nothing ⊢
    simp only [hitsFrom, nothing]

namespace ExportText

variable (declaration : ExportText) {before : Option Char} {more : List Char}

theorem hitsFrom_found {value : α} (start : before.all (· == '\n') = true)
    (ends : ∀ c ∈ more.head?, c = '\n')
    (reads : reader (declaration.text ++ more) = some (value, declaration.rest ++ more)) (position : Nat) :
    ∃ position' before', hitsFrom (atLineStart reader) 0 position before (declaration.text ++ more) =
      ⟨position, value, declaration.rest ++ more⟩ ::
        hitsFrom (atLineStart reader) 0 position' before' more := by
  obtain ⟨lead, -, split⟩ := declaration.exists_lead
  rw [split] at reads ⊢
  have fits : atLineStart reader before ('e' :: lead ++ (declaration.rest ++ more)) =
      some (value, declaration.rest ++ more) := by
    rw [← reads]
    exact atLineStart_cons start (by decide)
  obtain ⟨last, -, found⟩ := hitsFrom_match position fits
  obtain ⟨position', before', search⟩ := hitsFrom_inert exports declaration.quiet ends _ (some last)
  exact ⟨position', before', by rw [found, search]⟩

theorem hitsFrom_missed (ends : ∀ c ∈ more.head?, c = '\n')
    (refused : reader (declaration.text ++ more) = none) (position : Nat) :
    ∃ position' before', hitsFrom (atLineStart reader) 0 position before (declaration.text ++ more) =
      hitsFrom (atLineStart reader) 0 position' before' more := by
  obtain ⟨lead, line, split⟩ := declaration.exists_lead
  rw [split] at refused ⊢
  obtain ⟨last, -, search⟩ := hitsFrom_refused position before (by decide) line refused
  rw [search]
  exact hitsFrom_inert exports declaration.quiet ends _ (some last)

end ExportText

theorem filterMap_hits_print {δ β : Type} (write : δ → ExportText) (fits : δ → Bool) (value : δ → α)
    (use : Hit α → Option β) (result : δ → β)
    (reads : ∀ d more, reader ((write d).text ++ more) =
      if fits d then some (value d, (write d).rest ++ more) else none)
    (uses : ∀ d position more, use ⟨position, value d, (write d).rest ++ '\n' :: more⟩ = some (result d))
    (declarations : List δ) {before : Option Char} (start : before.all (· == '\n') = true) (position : Nat) :
    (hitsFrom (atLineStart reader) 0 position before
        (declarations.flatMap fun d => (write d).print)).filterMap use =
      (declarations.filter fits).map result := by
  induction declarations generalizing position before with
  | nil => rfl
  | cons d declarations ih =>
    have ends : ∀ c ∈ ('\n' :: declarations.flatMap fun d => (write d).print).head?, c = '\n' := by simp
    have read := reads d ('\n' :: declarations.flatMap fun d => (write d).print)
    rw [List.flatMap_cons, ExportText.print, List.append_assoc, List.singleton_append]
    cases fit : fits d with
    | true =>
      rw [fit, if_pos rfl] at read
      obtain ⟨position', before', search⟩ := (write d).hitsFrom_found exports start ends read position
      rw [search, List.filterMap_cons_some (uses d _ _), hitsFrom_newline exports, ih rfl,
        List.filter_cons_of_pos fit, List.map_cons]
    | false =>
      rw [fit, if_neg (by simp)] at read
      obtain ⟨position', before', search⟩ := (write d).hitsFrom_missed exports ends read position
      rw [search, hitsFrom_newline exports, ih rfl, List.filter_cons_of_neg (by simp [fit])]

omit exports in
theorem filterMap_hits_append_perm {δ β : Type} {first second : List Char → Option (α × List Char)}
    (exports : ReadsExports first) (exports' : ReadsExports second) (write : δ → ExportText)
    (fits : δ → Bool) (value : δ → α) (use : Hit α → Option β) (result : δ → β)
    (reads : ∀ d more, first ((write d).text ++ more) =
      if fits d then some (value d, (write d).rest ++ more) else none)
    (reads' : ∀ d more, second ((write d).text ++ more) =
      if !fits d then some (value d, (write d).rest ++ more) else none)
    (uses : ∀ d position more, use ⟨position, value d, (write d).rest ++ '\n' :: more⟩ = some (result d))
    (declarations : List δ) :
    let source := declarations.flatMap fun d => (write d).print
    ((hits (atLineStart first) source ++ hits (atLineStart second) source).filterMap use).Perm
      (declarations.map result) := by
  intro source
  have found := filterMap_hits_print exports write _ _ use result reads uses declarations
    (rfl : (none : Option Char).all (· == '\n') = true) 0
  have found' := filterMap_hits_print exports' write _ _ use result reads' uses declarations
    (rfl : (none : Option Char).all (· == '\n') = true) 0
  rw [List.filterMap_append, hits, hits, found, found', ← List.map_append]
  exact (List.filter_append_perm _ _).map _

end Search

end FrontendAtlas.Source

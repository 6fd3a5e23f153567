import FrontendAtlas.Proofs.Source.CommentPass
import FrontendAtlas.Source.Template

/-! Template literals under the removal of comments.  Where a template literal ends is decided twice: its
reader passes over interpolations as balanced braces, while the pass that removes comments takes the
next backtick for the end and so reads a nested template as code.  The contents of a literal come through
if they show that pass no comment and leave it inside the literal, and only then. -/

namespace FrontendAtlas.Source

def CommentMode.outside : Option Char → CommentMode
  | none => .code
  | some quote => .quoted quote

/-- Whether the removal of comments, begun in a literal or in code, passes over a text without meeting a
comment and is in a template literal after it.  A backslash at the very end would escape what follows. -/
def keepsTemplate : (quote : Option Char) → List Char → Bool
  | quote, [] => quote == some '\x60'
  | none, '/' :: '/' :: _ => false
  | none, '/' :: '*' :: _ => false
  | none, c :: rest => keepsTemplate (if isQuote c then some c else none) rest
  | some _, ['\\'] => false
  | some quote, '\\' :: _ :: rest => keepsTemplate (some quote) rest
  | some quote, c :: rest =>
    keepsTemplate (if breaksLiteral quote c ∨ c = quote then none else some quote) rest

theorem length_stripFrom_le (mode : CommentMode) (text : List Char) :
    (stripFrom mode text).length ≤ text.length := by
  fun_induction stripFrom mode text <;> simp_all <;> omega

theorem stripFrom_line_ne (text : List Char) :
    stripFrom .code ('/' :: '/' :: text) ≠ '/' :: '/' :: text := by
  intro same
  have shorter := length_stripFrom_le .line text
  rw [stripFrom] at same
  rw [same, List.length_cons, List.length_cons] at shorter
  omega

theorem stripFrom_block_ne (text : List Char) :
    stripFrom .code ('/' :: '*' :: text) ≠ '/' :: '*' :: text := by
  intro same
  rw [stripFrom] at same
  simp at same

theorem stripFrom_quoted_slashes {quote : Char} (quoted : isQuote quote = true) :
    stripFrom (.quoted quote) ['/', '/'] = ['/', '/'] := by
  simp only [isQuote, Bool.or_eq_true, beq_iff_eq] at quoted
  rcases quoted with (rfl | rfl) | rfl <;> rfl

section Step

variable {c quote : Char} {text : List Char}

theorem stripFrom_outside_none (line : ∀ more, c = '/' → text ≠ '/' :: more)
    (block : ∀ more, c = '/' → text ≠ '*' :: more) :
    stripFrom (.outside none) (c :: text) =
      c :: stripFrom (.outside (if isQuote c then some c else none)) text := by
  rw [CommentMode.outside, stripFrom]
  · split <;> rfl
  · exact line
  · exact block

theorem stripFrom_outside_some (plain : c ≠ '\\') :
    stripFrom (.outside (some quote)) (c :: text) =
      c :: stripFrom (.outside (if breaksLiteral quote c ∨ c = quote then none else some quote)) text := by
  rw [CommentMode.outside, stripFrom]
  · split <;> rfl
  · intro d rest escape
    exact absurd escape plain

end Step

theorem keepsTemplate_iff {quote : Option Char} (quoted : ∀ q ∈ quote, isQuote q = true) (text : List Char) :
    keepsTemplate quote text = true ↔
      ∀ rest, stripFrom (.outside quote) (text ++ '\x60' :: rest) = text ++ '\x60' :: stripFrom .code rest := by
  fun_induction keepsTemplate quote text with
  | case1 quote =>
    cases quote with
    | none =>
      have opens : stripFrom (.outside none) ['\x60', '/', '/'] ≠ ['\x60'] := by decide
      exact iff_of_false (by decide) fun kept => opens (kept ['/', '/'])
    | some quote =>
      by_cases backtick : quote = '\x60'
      · simp [backtick, CommentMode.outside, stripFrom]
      · -- The literal is another one and goes on after the backtick.
        have goesOn : stripFrom (.outside (some quote)) ['\x60', '/', '/'] ≠ ['\x60'] := by
          rw [stripFrom_outside_some (by decide), if_neg (by simp [breaksLiteral, Ne.symm backtick]),
            CommentMode.outside, stripFrom_quoted_slashes (quoted quote rfl)]
          simp
        exact iff_of_false (by simp [backtick]) fun kept => goesOn (kept ['/', '/'])
  | case2 text => exact iff_of_false (by simp) fun kept => stripFrom_line_ne (text ++ ['\x60']) (kept [])
  | case3 text => exact iff_of_false (by simp) fun kept => stripFrom_block_ne (text ++ ['\x60']) (kept [])
  | case4 c text line block ih =>
    have step (rest : List Char) : stripFrom (.outside none) (c :: (text ++ '\x60' :: rest)) =
        c :: stripFrom (.outside (if isQuote c then some c else none)) (text ++ '\x60' :: rest) := by
      apply stripFrom_outside_none
      · cases text with
        | nil => simp
        | cons d text => simpa using line text
      · cases text with
        | nil => simp
        | cons d text => simpa using block text
    simp only [List.cons_append, step, List.cons.injEq, true_and]
    exact ih (by grind)
  | case5 quote =>
    have escapes : stripFrom (.outside (some quote)) ['\\', '\x60', '/', '/'] = ['\\', '\x60', '/', '/'] := by
      rw [CommentMode.outside, stripFrom, stripFrom_quoted_slashes (quoted quote rfl)]
    refine iff_of_false (by simp) fun kept => ?_
    have cut := escapes.symm.trans (kept ['/', '/'])
    simp [stripFrom] at cut
  | case6 quote c text ih =>
    simp only [List.cons_append, CommentMode.outside, stripFrom, List.cons.injEq, true_and]
    exact ih quoted
  | case7 quote c text lone escape ih =>
    have plain : c ≠ '\\' := by
      rintro rfl
      cases text with
      | nil => exact lone rfl rfl
      | cons d text => exact escape d text rfl rfl
    simp only [List.cons_append, stripFrom_outside_some plain, List.cons.injEq, true_and]
    exact ih (by grind)

theorem append_of_templateBody? {braces : Nat} {text raw : List Char} (read : templateBody? braces text = some raw) :
    ∃ rest, text = raw ++ '\x60' :: rest ∧
      ∀ other, templateBody? braces (raw ++ '\x60' :: other) = some raw := by
  fun_induction templateBody? braces text generalizing raw with
  | case1 => cases read
  | case2 c text ih =>
    obtain ⟨inner, reads, rfl⟩ := Option.map_eq_some_iff.1 read
    obtain ⟨rest, rfl, again⟩ := ih reads
    exact ⟨rest, rfl, fun other => by simp [templateBody?, again other]⟩
  | case3 text ih =>
    obtain ⟨inner, reads, rfl⟩ := Option.map_eq_some_iff.1 read
    obtain ⟨rest, rfl, again⟩ := ih reads
    exact ⟨rest, rfl, fun other => by simp [templateBody?, again other]⟩
  | case4 text escape opens =>
    cases read
    exact ⟨text, rfl, fun other => by simp [templateBody?]⟩
  | case5 c text escape opens stop ih =>
    obtain ⟨inner, reads, rfl⟩ := Option.map_eq_some_iff.1 read
    obtain ⟨rest, rfl, again⟩ := ih reads
    refine ⟨rest, rfl, fun other => ?_⟩
    rw [List.cons_append, templateBody?_plain (ne_backslash escape (by simp)) stop, again other]
    · rfl
    · rintro ⟨rfl, brace⟩
      cases inner with
      | nil => simp at brace
      | cons d inner => exact opens (inner ++ '\x60' :: rest) rfl (by simpa using brace)
  | case6 braces c text depth =>
    rename_i ih
    obtain ⟨inner, reads, rfl⟩ := Option.map_eq_some_iff.1 read
    obtain ⟨rest, rfl, again⟩ := ih reads
    refine ⟨rest, rfl, fun other => ?_⟩
    rw [List.cons_append, templateBody?, again other]
    rfl

theorem keepsTemplate_cons {c : Char} (plain : c ≠ '\\') (stop : c ≠ '\x60') (rest : List Char) :
    keepsTemplate (some '\x60') (c :: rest) = keepsTemplate (some '\x60') rest := by
  rw [keepsTemplate, if_neg (by simp [breaksLiteral, stop])]
  · exact fun escape => absurd escape plain
  · exact fun d rest escape => absurd escape plain

/-- Contents without a backtick end in the literal that they began in.  In an interpolation a backslash
stands for itself, so a pair may begin at either of two characters there; none reaches over its closing
brace. -/
theorem keepsTemplate_of_flat {braces : Nat} {text raw : List Char} (read : templateBody? braces text = some raw)
    (flat : '\x60' ∉ raw) : keepsTemplate (some '\x60') raw = true ∧
      (0 < braces → ∃ c inner, raw = c :: inner ∧ keepsTemplate (some '\x60') inner = true) := by
  fun_induction templateBody? braces text generalizing raw with
  | case1 => cases read
  | case2 c text ih =>
    obtain ⟨inner, reads, rfl⟩ := Option.map_eq_some_iff.1 read
    simp only [List.mem_cons, not_or] at flat
    exact ⟨(ih reads flat.2.2).1, by simp⟩
  | case3 text ih =>
    obtain ⟨inner, reads, rfl⟩ := Option.map_eq_some_iff.1 read
    simp only [List.mem_cons, not_or] at flat
    refine ⟨?_, by simp⟩
    rw [keepsTemplate_cons (by decide) (by decide), keepsTemplate_cons (by decide) (by decide)]
    exact (ih reads flat.2.2).1
  | case4 text escape opens =>
    cases read
    exact ⟨rfl, by simp⟩
  | case5 c text escape opens stop ih =>
    obtain ⟨inner, reads, rfl⟩ := Option.map_eq_some_iff.1 read
    rw [List.mem_cons, not_or] at flat
    obtain ⟨rest, rfl, -⟩ := append_of_templateBody? reads
    rw [keepsTemplate_cons (ne_backslash escape (by simp)) stop]
    exact ⟨(ih reads flat.2).1, by simp⟩
  | case6 braces c text depth =>
    rename_i ih
    obtain ⟨inner, reads, rfl⟩ := Option.map_eq_some_iff.1 read
    rw [List.mem_cons, not_or] at flat
    obtain ⟨kept, later⟩ := ih reads flat.2
    refine ⟨?_, fun _ => ⟨c, inner, rfl, kept⟩⟩
    by_cases backslash : c = '\\'
    · subst backslash
      obtain ⟨d, more, rfl, past⟩ := later (by simp [depth])
      exact past
    · rw [keepsTemplate_cons backslash (Ne.symm flat.1), kept]

/-- A template literal that opens a text comes through the removal of comments, whatever follows it,
exactly if that pass meets no comment in its contents and ends in it.  Literals in which no backtick
stands are among these. -/
theorem stripComments_template {text raw : List Char} (read : template? text = some raw) :
    (∃ rest, text = '\x60' :: raw ++ '\x60' :: rest) ∧
      (∀ rest, template? ('\x60' :: raw ++ '\x60' :: rest) = some raw) ∧
      (keepsTemplate (some '\x60') raw = true ↔ ∀ rest,
        stripComments ('\x60' :: raw ++ '\x60' :: rest) = '\x60' :: raw ++ '\x60' :: stripComments rest) ∧
      ('\x60' ∉ raw → keepsTemplate (some '\x60') raw = true) := by
  cases text with
  | nil => cases read
  | cons c text =>
    rw [template?] at read
    split at read
    case isFalse => cases read
    case isTrue opens =>
      subst opens
      obtain ⟨rest, rfl, again⟩ := append_of_templateBody? read
      refine ⟨⟨rest, rfl⟩, fun other => ?_, ?_, fun flat => (keepsTemplate_of_flat read flat).1⟩
      · rw [List.cons_append, template?, if_pos rfl, again other]
      · rw [keepsTemplate_iff (by simp [isQuote])]
        simp [stripComments, stripFrom, isQuote, CommentMode.outside]

theorem stripComments_template_query :
    let raw := "/people$\x7bq ? `?$\x7bq\x7d` : ''\x7d".toList
    template? ('\x60' :: raw ++ "`; // all".toList) = some raw ∧ keepsTemplate (some '\x60') raw = true ∧
      ∀ rest, stripComments ('\x60' :: raw ++ '\x60' :: rest) = '\x60' :: raw ++ '\x60' :: stripComments rest := by
  intro raw
  have read : template? ('\x60' :: raw ++ "`; // all".toList) = some raw := by decide +kernel
  have kept : keepsTemplate (some '\x60') raw = true := by decide +kernel
  obtain ⟨-, -, keeps, -⟩ := stripComments_template read
  exact ⟨read, kept, keeps.1 kept⟩

/-- Of two nested templates in an interpolation without comments the second one looks like a comment to
the pass, and what follows it on the line is lost. -/
theorem stripComments_template_cut :
    let interpolation := "local ? ".toList ++ "`/`".toList ++ " : ".toList ++ "`//cdn`".toList
    let raw := "$\x7b".toList ++ interpolation ++ "\x7d/people".toList
    template? "`/`".toList = some "/".toList ∧ template? "`//cdn`".toList = some "//cdn".toList ∧
      template? ('\x60' :: raw ++ "`;".toList) = some raw ∧
      stripComments ('\x60' :: raw ++ "`;".toList) = "`$\x7blocal ? `/` : `".toList ∧
      stripComments ('\x60' :: raw ++ "`;".toList) ≠ '\x60' :: raw ++ '\x60' :: stripComments ";".toList := by
  decide +kernel

end FrontendAtlas.Source

import FrontendAtlas.Proofs.Declaration.LiteralImmunity

/-! Requests that a file's component makes, and the literals in its text.  Requests are looked for in a
text that still has its literals.  At a quote the search falls in two, unless an import or the type
arguments of a call are open there; so what stands in a literal counts like code. -/

namespace FrontendAtlas.Declaration

open FrontendAtlas.Text FrontendAtlas.Source

def makesRequest (text code : List Char) : Bool :=
  callsNetwork text || (importedHelpers text).any fun helper => calls code helper

def originOpen (text : List Char) : Bool :=
  (word? "from" (trimStart text)).any fun rest => (trimStart rest).isEmpty

def opensImport (text : List Char) : Bool :=
  (importNames? text).any fun names =>
    (names.dropWhile (· ≠ '}')).isEmpty || (char? '}' (names.dropWhile (· ≠ '}'))).any originOpen

def argumentTypesOpen : List Char → Bool :=
  typesOpen fun c => c == '(' || c == ')'

def opensCall (text : List Char) : Bool :=
  (word? "axios" text).any (fun rest => argumentTypesOpen ((memberAccess? rest).getD rest)) ||
    ((word? "apiClient" text).bind memberAccess?).any argumentTypesOpen ||
    (oneOf? ["client", "api", "http"] (char? '.') text).any fun found =>
      clientFunctions.any fun function => (word? function found.2).any argumentTypesOpen

/-- Neither an import nor the type arguments of a call go on at the end of a text. -/
def NothingOpen (text : List Char) : Prop :=
  ∀ rest ∈ text.tails, opensImport rest = false ∧ opensCall rest = false

instance (text : List Char) : Decidable (NothingOpen text) :=
  inferInstanceAs (Decidable (∀ rest ∈ text.tails, opensImport rest = false ∧ opensCall rest = false))

theorem importedHelpers_eq (text : List Char) : importedHelpers text =
    (values namedImport text).flatMap fun found =>
      if String.ofList (moduleName found.2) ∈ clientObjects then
        (splitAt (· == ',') found.1).filterMap importedHelper?
      else [] := by
  rw [values, valuesFrom, List.flatMap_map]
  rfl

section Quote

variable {quote : Char} (quoted : quote = '\x27' ∨ quote = '\x22') {text : List Char} (more : List Char)
include quoted

theorem argumentsOpen?_append_quote (closed : argumentTypesOpen text = false) :
    argumentsOpen? (text ++ quote :: more) = (argumentsOpen? text).map (· ++ quote :: more) := by
  have apart : quote ≠ '<' ∧ quote ≠ '(' := ⟨ne_of_quoted quoted (by decide), ne_of_quoted quoted (by decide)⟩
  exact listOpen?_append_mark (visible_quote quoted) apart closed more

theorem memberAccess?_append_quote :
    memberAccess? (text ++ quote :: more) = (memberAccess? text).map (· ++ quote :: more) := by
  have other : quote.isAlpha = false := by rcases quoted with rfl | rfl <;> decide
  rw [memberAccess?, char?_append_mark (ne_of_quoted quoted (by decide)), memberAccess?]
  cases char? '.' text with
  | none => rfl
  | some rest =>
    cases rest with
    | nil => simp [other]
    | cons c rest =>
      simp only [Option.map_some, Option.bind_eq_bind, Option.bind_some, List.cons_append,
        dropWhile_append_mark other]
      split <;> rfl

theorem fetchOpen_append_quote :
    ((word? "fetch" (text ++ quote :: more)).bind fun rest => char? '(' (trimStart rest)) =
      ((word? "fetch" text).bind fun rest => char? '(' (trimStart rest)).map (· ++ quote :: more) := by
  rw [word?_append_mark (notMem_of_quoted quoted (by decide))]
  apply bind_map_append
  intro rest _
  rw [trimStart_append_cons (visible_quote quoted), char?_append_mark (ne_of_quoted quoted (by decide))]

theorem axiosOpen_append_quote (closed :
      (word? "axios" text).any (fun rest => argumentTypesOpen ((memberAccess? rest).getD rest)) = false) :
    ((word? "axios" (text ++ quote :: more)).bind fun rest => argumentsOpen? ((memberAccess? rest).getD rest)) =
      ((word? "axios" text).bind fun rest => argumentsOpen? ((memberAccess? rest).getD rest)).map
        (· ++ quote :: more) := by
  rw [word?_append_mark (notMem_of_quoted quoted (by decide))]
  apply bind_map_append
  intro rest read
  have member : (memberAccess? (rest ++ quote :: more)).getD (rest ++ quote :: more) =
      (memberAccess? rest).getD rest ++ quote :: more := by
    rw [memberAccess?_append_quote quoted]
    cases memberAccess? rest <;> rfl
  rw [read, Option.any_some] at closed
  rw [member, argumentsOpen?_append_quote quoted more closed]

theorem apiClientOpen_append_quote
    (closed : ((word? "apiClient" text).bind memberAccess?).any argumentTypesOpen = false) :
    (((word? "apiClient" (text ++ quote :: more)).bind memberAccess?).bind argumentsOpen?) =
      (((word? "apiClient" text).bind memberAccess?).bind argumentsOpen?).map (· ++ quote :: more) := by
  rw [word?_append_mark (notMem_of_quoted quoted (by decide)),
    bind_map_append fun rest _ => memberAccess?_append_quote quoted more]
  apply bind_map_append
  intro rest read
  rw [read, Option.any_some] at closed
  exact argumentsOpen?_append_quote quoted more closed

theorem readsApart_libraryCall (closed : opensCall text = false) :
    ReadsApart libraryCall text (quote :: more) := by
  intro before
  rw [opensCall, Bool.or_eq_false_iff, Bool.or_eq_false_iff] at closed
  rw [libraryCall, atWordStart, atWordStart]
  split
  case isTrue => rfl
  case isFalse =>
    rw [fetchOpen_append_quote quoted, axiosOpen_append_quote quoted more closed.1.1,
      apiClientOpen_append_quote quoted more closed.1.2]
    simp only [Option.orElse_eq_orElse, Option.orElse_eq_or, Option.map_or, Option.map_map]
    rfl

theorem clientOpen?_append_quote (closed : opensCall text = false) : clientOpen? (text ++ quote :: more) =
    (clientOpen? text).map fun found => (found.1, found.2 ++ quote :: more) := by
  rw [opensCall, Bool.or_eq_false_iff] at closed
  rw [clientOpen?, oneOf?_append_mark (by rcases quoted with rfl | rfl <;> decide)
    fun word _ rest _ => char?_append_mark (ne_of_quoted quoted (by decide)) more, clientOpen?]
  cases read : oneOf? ["client", "api", "http"] (char? '.') text with
  | none => rfl
  | some found =>
    have settled := closed.2
    rw [read, Option.any_some, List.any_eq_false] at settled
    have functions : ∀ word ∈ clientFunctions, ∀ rest, word? word found.2 = some rest →
        argumentsOpen? (rest ++ quote :: more) = (argumentsOpen? rest).map (· ++ quote :: more) := by
      intro word listed rest called
      have settled := settled word listed
      rw [called, Option.any_some, Bool.not_eq_true] at settled
      exact argumentsOpen?_append_quote quoted more settled
    simp only [Option.map_some, Option.bind_eq_bind, Option.bind_some]
    rw [oneOf?_append_mark (by rcases quoted with rfl | rfl <;> decide) functions]
    cases oneOf? clientFunctions argumentsOpen? found.2 <;> rfl

theorem readsApart_clientCall {c : Char} (whole : opensCall (c :: text) = false)
    (later : opensCall text = false) : ReadsApart clientCall (c :: text) (quote :: more) := by
  apply readsApart_afterBreak
  · exact clientOpen?_append_quote quoted more whole
  · exact clientOpen?_append_quote quoted more later

theorem libraryCall_quote (before : Option Char) : libraryCall before (quote :: more) = none := by
  have nothing : libraryCall before [] = none := by
    rw [libraryCall, atWordStart]
    split <;> rfl
  have apart : ReadsApart libraryCall [] (quote :: more) := readsApart_libraryCall quoted more (by decide)
  exact apart.refused nothing

theorem clientCall_quote (before : Option Char) :
    clientCall before (quote :: more) = clientCall none (quote :: more) := by
  have nothing : clientOpen? ([] ++ quote :: more) = none := clientOpen?_append_quote quoted more (by decide)
  rw [List.nil_append] at nothing
  simp only [clientCall, afterBreak, nothing, ite_self]

theorem callsNetwork_append_quote (closed : NothingOpen text) :
    callsNetwork (text ++ quote :: more) = (callsNetwork text || callsNetwork (quote :: more)) := by
  have calls {rest : List Char} (inside : rest <:+ text) : opensCall rest = false :=
    (closed rest ((List.mem_tails _ _).2 inside)).2
  have library : fits libraryCall (text ++ quote :: more) =
      (fits libraryCall text || fits libraryCall (quote :: more)) := by
    apply fits_append_mark
    · intro before
      rw [libraryCall_quote quoted, libraryCall_quote quoted]
    · intro rest inside _
      exact readsApart_libraryCall quoted more (calls inside)
  have client : fits clientCall (text ++ quote :: more) =
      (fits clientCall text || fits clientCall (quote :: more)) := by
    apply fits_append_mark (clientCall_quote quoted more)
    intro rest inside nonempty
    cases rest with
    | nil => contradiction
    | cons c rest =>
      have later : rest <:+ text := (List.suffix_cons c rest).trans inside
      exact readsApart_clientCall quoted more (calls inside) (calls later)
  rw [callsNetwork, library, client, callsNetwork, callsNetwork]
  ac_rfl

theorem importNames?_append_quote :
    importNames? (text ++ quote :: more) = (importNames? text).map (· ++ quote :: more) := by
  rw [importNames?, word?_append_mark (notMem_of_quoted quoted (by decide))]
  apply bind_map_append
  intro rest _
  rw [trimStart_append_cons (visible_quote quoted), char?_append_mark (ne_of_quoted quoted (by decide))]

theorem importOrigin?_append_quote (closed : originOpen text = false) :
    importOrigin? (text ++ quote :: more) =
      (importOrigin? (text ++ [quote])).map fun found => (found.1, found.2 ++ more) := by
  have visible := visible_quote quoted
  have edge : (!(quote == '\x27' || quote == '\x22')) = false := by rcases quoted with rfl | rfl <;> rfl
  have word : quote ∉ "from".toList := notMem_of_quoted quoted (by decide)
  rw [importOrigin?, importOrigin?, trimStart_append_cons visible, trimStart_append_cons visible,
    word?_append_mark word, word?_append_mark word]
  rw [originOpen] at closed
  cases read : word? "from" (trimStart text) with
  | none => rfl
  | some rest =>
    rw [read, Option.any_some] at closed
    simp only [Option.map_some, Option.bind_eq_bind, Option.bind_some, trimStart_append_cons visible]
    cases start : trimStart rest with
    | nil =>
      rw [start] at closed
      cases closed
    | cons first rest =>
      simp only [List.cons_append]
      rw [takeWhile_append_mark edge, takeWhile_append_mark edge, dropWhile_append_mark edge,
        dropWhile_append_mark edge]
      cases rest.takeWhile _ with
      | nil => rfl
      | cons c origin =>
        cases rest.dropWhile _ with
        | nil =>
          simp only [List.nil_append]
          split <;> rfl
        | cons last after =>
          simp only [List.cons_append]
          split <;> simp

theorem readsApart_namedImport (closed : opensImport text = false) :
    ReadsApart namedImport (text ++ [quote]) more := by
  intro before
  rw [namedImport, List.append_assoc, List.singleton_append, atWordStart, atWordStart]
  split
  case isTrue => rfl
  case isFalse =>
    rw [opensImport] at closed
    rw [importNames?_append_quote quoted, importNames?_append_quote quoted]
    cases read : importNames? text with
    | none => rfl
    | some names =>
      rw [read, Option.any_some, Bool.or_eq_false_iff] at closed
      simp only [Option.map_some, Option.bind_eq_bind, Option.bind_some]
      have other : quote ≠ '}' := ne_of_quoted quoted (by decide)
      rw [takeWhile_append_of_ends closed.1, takeWhile_append_of_ends closed.1,
        dropWhile_append_of_ends closed.1, dropWhile_append_of_ends closed.1, char?_append_mark other,
        char?_append_mark other]
      cases brace : char? '}' (names.dropWhile (· ≠ '}')) with
      | none => rfl
      | some rest =>
        rw [brace, Option.any_some] at closed
        simp only [Option.map_some, Option.bind_some]
        rw [importOrigin?_append_quote quoted more closed.2]
        cases importOrigin? (rest ++ [quote]) <;> rfl

theorem namedImport_quote (before : Option Char) : namedImport before (quote :: more) = none := by
  have nothing : importNames? ([] ++ quote :: more) = none := importNames?_append_quote quoted more
  rw [List.nil_append] at nothing
  rw [namedImport, atWordStart]
  simp only [nothing, Option.bind_eq_bind, Option.bind_none, ite_self]

theorem values_namedImport (closed : NothingOpen text) : values namedImport (text ++ quote :: more) =
    values namedImport (text ++ [quote]) ++ values namedImport (quote :: more) := by
  -- a match may end with the quote, so the text is cut behind it and not before it
  have apart : ∀ rest, rest <:+ text ++ [quote] → rest ≠ [] → ReadsApart namedImport rest more := by
    intro rest inside nonempty
    obtain empty | ⟨rest, rfl, within⟩ := List.suffix_concat_iff.1 inside
    · contradiction
    · exact readsApart_namedImport quoted more (closed rest ((List.mem_tails _ _).2 within)).1
  have last : (text ++ [quote]).getLast?.or none = some quote := by simp
  have opening : values namedImport (quote :: more) = valuesFrom namedImport 0 (some quote) more := by
    rw [values, valuesFrom_cons, namedImport_quote quoted]
  rw [opening, ← last, values, values, ← valuesFrom_append apart (Nat.zero_le _), List.append_assoc,
    List.singleton_append]

theorem importedHelpers_append_quote (closed : NothingOpen text) : importedHelpers (text ++ quote :: more) =
    importedHelpers (text ++ [quote]) ++ importedHelpers (quote :: more) := by
  simp only [importedHelpers_eq, values_namedImport quoted more closed, List.flatMap_append]

theorem makesRequest_append_quote (closed : NothingOpen text) (code : List Char) :
    makesRequest (text ++ quote :: more) code =
      (makesRequest (text ++ [quote]) code || makesRequest (quote :: more) code) := by
  have alone : callsNetwork [quote] = false := by rcases quoted with rfl | rfl <;> decide
  rw [makesRequest, makesRequest, makesRequest, callsNetwork_append_quote quoted more closed,
    callsNetwork_append_quote quoted [] closed, alone, importedHelpers_append_quote quoted more closed,
    List.any_append, Bool.or_false]
  ac_rfl

theorem nothingOpen_quote {contents : List Char} (closed : NothingOpen contents) :
    NothingOpen (quote :: contents) := by
  intro rest inside
  rw [List.tails_cons, List.mem_cons] at inside
  obtain rfl | inside := inside
  · rcases quoted with rfl | rfl <;> exact ⟨rfl, rfl⟩
  · exact closed rest inside

theorem makesRequest_literal {front contents : List Char} (outside : NothingOpen front)
    (closed : NothingOpen contents) (back code : List Char) :
    makesRequest (front ++ quote :: (contents ++ quote :: back)) code =
      (makesRequest (front ++ quote :: quote :: back) code ||
        makesRequest (quote :: (contents ++ [quote])) code) := by
  have empty : makesRequest [quote, quote] code = false := by rcases quoted with rfl | rfl <;> rfl
  have closing (contents : List Char) (closed : NothingOpen contents) :
      makesRequest (quote :: (contents ++ quote :: back)) code =
        (makesRequest (quote :: (contents ++ [quote])) code || makesRequest (quote :: back) code) :=
    makesRequest_append_quote quoted back (nothingOpen_quote quoted closed) code
  have emptied : makesRequest (quote :: quote :: back) code = makesRequest (quote :: back) code := by
    simpa [empty] using closing [] (by decide)
  rw [makesRequest_append_quote quoted _ outside, makesRequest_append_quote quoted (quote :: back) outside,
    closing contents closed, emptied]
  ac_rfl

end Quote

theorem map_callsNetwork_component? (source : List Char) (file path : String) (known : NameSet) :
    (component? source file path known).map (·.callsNetwork) =
      if (componentName? (stripComments source) file).isSome then
        some (makesRequest (stripComments source) (blankLiterals (stripComments source)))
      else none := by
  rw [component?]
  cases componentName? (stripComments source) file <;> rfl

section Literal

variable {quote : Char} {front contents back : List Char}

theorem map_callsNetwork_literal {rest : List Char} (quoted : quote = '\x27' ∨ quote = '\x22')
    (code : StandsInCode front (quote :: rest)) (plain : PlainContents quote contents)
    (outside : NothingOpen (stripComments front)) (closed : NothingOpen contents) (file path : String)
    (known : NameSet) :
    (component? (front ++ quote :: (contents ++ quote :: back)) file path known).map (·.callsNetwork) =
      ((component? (front ++ quote :: quote :: back) file path known).map (·.callsNetwork)).map
        (· || makesRequest (quote :: (contents ++ [quote]))
          (blankLiterals (stripComments (front ++ quote :: quote :: back)))) := by
  have empty : PlainContents quote [] := ⟨by simp, by simp, by simp⟩
  have emptied : stripComments (front ++ quote :: quote :: back) =
      stripComments front ++ quote :: quote :: stripComments back :=
    stripComments_literal quoted code empty back
  have blanked : blankLiterals (stripComments front ++ quote :: (contents ++ quote :: stripComments back)) =
      blankLiterals (stripComments front ++ quote :: quote :: stripComments back) := by
    rw [blankLiterals_literal quoted code plain]
    exact (blankLiterals_literal quoted code empty _).symm
  have named : (componentName? (stripComments (front ++ quote :: (contents ++ quote :: back))) file).isSome =
      (componentName? (stripComments (front ++ quote :: quote :: back)) file).isSome := by
    rw [stripComments_literal quoted code plain, emptied]
    exact isSome_componentName?_literal quoted plain empty file
  rw [map_callsNetwork_component?, map_callsNetwork_component?, named, stripComments_literal quoted code plain,
    emptied, blanked, makesRequest_literal quoted outside closed]
  split <;> rfl

/-- A literal adds to the requests of its component what it makes by itself, where neither an import nor
type arguments are open before it or in it.  So two literals of which both make a request, or neither, can
stand for each other. -/
theorem callsNetwork_of_literal (quoted : quote = '\x27' ∨ quote = '\x22')
    (code : StandsInCode front (quote :: (contents ++ quote :: back))) (plain : PlainContents quote contents)
    (outside : NothingOpen (stripComments front)) (closed : NothingOpen contents) (file path : String)
    (known : NameSet) :
    let component (literal : List Char) :=
      component? (front ++ quote :: (literal ++ quote :: back)) file path known
    let requests (literal : List Char) := makesRequest (quote :: (literal ++ [quote]))
      (blankLiterals (stripComments (front ++ quote :: quote :: back)))
    (component contents).map (·.callsNetwork) =
        ((component []).map (·.callsNetwork)).map (· || requests contents) ∧
      ∀ other, PlainContents quote other → NothingOpen other → requests contents = requests other →
        (component contents).map (·.callsNetwork) = (component other).map (·.callsNetwork) := by
  intro component requests
  have law (literal : List Char) (plain : PlainContents quote literal) (closed : NothingOpen literal) :
      (component literal).map (·.callsNetwork) =
        ((component []).map (·.callsNetwork)).map (· || requests literal) :=
    map_callsNetwork_literal quoted code plain outside closed file path known
  refine ⟨law contents plain closed, ?_⟩
  intro other plain' closed' same
  rw [law contents plain closed, law other plain' closed', same]

theorem callsNetwork_of_literal_mention :
    let front := "import \x7b get \x7d from './client';\nexport const Note = () => ".toList
    let contents := "get(now) < (fetch)".toList
    let other := "later".toList
    let back := ";\n".toList
    let component (literal : List Char) :=
      component? (front ++ '\x27' :: (literal ++ '\x27' :: back)) "ui/Note.tsx" "ui/Note.tsx" ∅
    StandsInCode front ('\x27' :: (contents ++ '\x27' :: back)) ∧ PlainContents '\x27' contents ∧
      PlainContents '\x27' other ∧ NothingOpen (stripComments front) ∧ NothingOpen contents ∧
      (component contents).map (·.callsNetwork) = (component other).map (·.callsNetwork) ∧
      (component contents).map (·.callsNetwork) = some false := by
  intro front contents other back component
  have code : StandsInCode front ('\x27' :: (contents ++ '\x27' :: back)) := ⟨58, _, rfl⟩
  have plain : PlainContents '\x27' contents := ⟨by decide, by decide, by decide⟩
  have plain' : PlainContents '\x27' other := ⟨by decide, by decide, by decide⟩
  have outside : NothingOpen (stripComments front) := by decide +kernel
  have closed : NothingOpen contents := by decide +kernel
  have law := callsNetwork_of_literal (.inl rfl) code plain outside closed "ui/Note.tsx" "ui/Note.tsx" ∅
  refine ⟨code, plain, plain', outside, closed, ?_, by decide +kernel⟩
  exact law.2 other plain' (by decide +kernel) (by decide +kernel)

/-- A call in a literal counts as a request of the component. -/
theorem callsNetwork_reads_literal :
    let front := "export const Note = () => ".toList
    let contents := "fetch(now)".toList
    let other := "later".toList
    let back := ";\n".toList
    let component (literal : List Char) :=
      component? (front ++ '\x27' :: (literal ++ '\x27' :: back)) "ui/Note.tsx" "ui/Note.tsx" ∅
    StandsInCode front ('\x27' :: (contents ++ '\x27' :: back)) ∧ PlainContents '\x27' contents ∧
      PlainContents '\x27' other ∧ NothingOpen (stripComments front) ∧
      (component contents).map (·.callsNetwork) = some true ∧
      (component other).map (·.callsNetwork) = some false :=
  ⟨⟨26, _, rfl⟩, ⟨by decide, by decide, by decide⟩, ⟨by decide, by decide, by decide⟩,
    by decide +kernel, by decide +kernel, by decide +kernel⟩

end Literal

end FrontendAtlas.Declaration

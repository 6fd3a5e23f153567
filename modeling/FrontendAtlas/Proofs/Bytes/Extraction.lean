import FrontendAtlas.Declaration.Component
import FrontendAtlas.Declaration.TypeDeclaration
import FrontendAtlas.Proofs.Bytes.Hook

namespace FrontendAtlas.Bytes

open FrontendAtlas.Text FrontendAtlas.Source FrontendAtlas.Declaration

variable {text rest : List Char} {i : Nat}

def properties (body : List Char) : Checked (Dict String) :=
  return Dict.ofListFirst <| (members (← stripComments body)).filterMap fun member =>
    (property? member).map fun (name, type) => (String.ofList name, String.ofList type)

def interfaceProperties (text : List Char) (start : Nat) : Checked (Dict String) := do
  match ← typesEnd text start false with
  | some opening =>
    if (← byteAt text opening) = '{' then
      match ← balancedBody .braces text opening with
      | some body => properties body
      | none => return ∅
    else return ∅
  | none => return ∅

def types (source : List Char) (path : String) : Checked (Dict TypeDeclaration) := do
  let text ← stripComments source
  gather (hits typeHead text) (String.ofList ·.value.2) fun hit => do
    let name := String.ofList hit.value.2
    if hit.value.1 = .interface then
      return some ⟨name, .interface, ← interfaceProperties text (stop text hit), path⟩
    else return some ⟨name, hit.value.1, ∅, path⟩

theorem properties_eq (body : List Char) : properties body = .ok (Declaration.properties body) := by
  rw [properties, stripComments_eq]
  rfl

theorem interfaceProperties_eq (place : At text i rest) :
    interfaceProperties text i = .ok (Declaration.interfaceProperties rest) := by
  have skipped : typesEnd text i false =
      .ok ((afterTypes? false rest).map fun found => byteLength text - byteLength found) :=
    run_sectionPass place
  rw [interfaceProperties, Declaration.interfaceProperties, skipped]
  cases found : afterTypes? false rest with
  | none => rfl
  | some after =>
    obtain ⟨c, inside, rfl, ascii⟩ := ends_of_sectionEnd? found
    have opening : At text _ (c :: inside) :=
      .of_suffix ((suffix_of_sectionEnd? found).trans place.suffix)
    have read : byteAt text (byteLength text - byteLength (c :: inside)) = .ok c := by
      rw [byteAt, opening.byte?_ascii ascii]
      rfl
    simp only [Option.map_some, Option.bind_some, ok_bind, read]
    by_cases brace : c = '{'
    · subst brace
      have body : balancedBody .braces text _ =
          .ok ((Delimiters.braces.body? ('{' :: inside)).map Prod.fst) :=
        balancedBody_of_at ascii_braces opening
      rw [if_pos rfl, body, ok_bind]
      cases Delimiters.braces.body? ('{' :: inside) with
      | none => rfl
      | some found => exact properties_eq found.1
    · have other : Delimiters.braces.body? (c :: inside) = none := if_neg brace
      rw [if_neg brace, other]
      rfl

theorem types_eq (source : List Char) (path : String) :
    types source path = .ok (Declaration.types source path) := by
  rw [types, stripComments_eq, ok_bind, Declaration.types]
  generalize Source.stripComments source = text
  rw [gather_eq _ fun hit => some ⟨String.ofList hit.value.2, hit.value.1,
    if hit.value.1 = .interface then Declaration.interfaceProperties hit.rest else ∅, path⟩]
  · simp
  · intro hit found
    have place : At text (stop text hit) hit.rest := .stop leaves_exportedType?.atLineStart found
    by_cases kind : hit.value.1 = .interface
    · simp [kind, interfaceProperties_eq place]
    · simp [kind]

def componentName (text : List Char) (file : String) : Checked (Option String) := do
  let named := (hits exportHead text).filter fun hit => isComponentName hit.value.2
  let certain ← named.findM? fun hit => do
    let rest ← sliceFrom text (stop text hit)
    return hit.value.1 != "const" || holdsComponent rest
  let exported := (certain <|> named.head?).map fun hit => String.ofList hit.value.2
  return exported <|> (Path.fileStem? file).filter fun stem => isComponentName stem.toList

def requests (text code : List Char) : Checked Bool :=
  if callsNetwork text then return true
  else (importedHelpers text).anyM fun helper => calls code helper

def component (source : List Char) (file path : String) (known : NameSet) :
    Checked (Option Component) := do
  let text ← stripComments source
  match ← componentName text file with
  | none => return none
  | some name =>
    let code ← blankLiterals text
    let used ← known.names.filterM fun hook => mentions code hook.toList
    return some { name, path, hooks := .ofList used, callsNetwork := ← requests text code }

theorem componentName_eq (text : List Char) (file : String) :
    componentName text file = .ok (componentName? text file) := by
  let named := (hits exportHead text).filter fun hit => isComponentName hit.value.2
  have certain : (named.findM? fun hit => do
      let rest ← sliceFrom text (stop text hit)
      return hit.value.1 != "const" || holdsComponent rest) =
      .ok (named.find? fun hit => hit.value.1 != "const" || holdsComponent hit.rest) := by
    apply findM?_eq
    intro hit member
    rw [(At.stop leaves_exportHead (List.mem_filter.1 member).1).sliceFrom]
    rfl
  simp only [componentName, componentName?]
  rw [certain]
  rfl

theorem requests_eq (text code : List Char) :
    requests text code = .ok (callsNetwork text ||
      (importedHelpers text).any fun helper => Source.calls code helper) := by
  rw [requests]
  cases callsNetwork text with
  | true => rfl
  | false => exact anyM_eq fun helper _ => calls_eq code helper

theorem component_eq (source : List Char) (file path : String) (known : NameSet) :
    component source file path known = .ok (component? source file path known) := by
  rw [component, component?, stripComments_eq, ok_bind, componentName_eq, ok_bind]
  generalize Source.stripComments source = text
  cases componentName? text file with
  | none => rfl
  | some name =>
    have used : (known.names.filterM fun hook => mentions (Source.blankLiterals text) hook.toList) =
        .ok (known.names.filter fun hook =>
          Source.mentions (Source.blankLiterals text) hook.toList) :=
      filterM_eq fun hook _ => mentions_eq (Source.blankLiterals text) hook.toList
    have collected : NameSet.ofList (known.names.filter fun hook =>
          Source.mentions (Source.blankLiterals text) hook.toList) =
        known.filter fun hook => Source.mentions (Source.blankLiterals text) hook.toList := by
      apply NameSet.ext_mem
      intro name
      simp
    simp only [blankLiterals_eq, used, requests_eq, collected, ok_bind]
    rfl

theorem exists_skipLiteral {quote : Char} (quoted : isQuote quote = true)
    (read : byte? text i = some quote) :
    ∃ stop, skipLiteral text i quote = .ok stop ∧ i < stop ∧ stop ≤ (bytes text).length ∧
      (fromByte? stop text).isSome := by
  obtain ⟨rest, place⟩ := exists_at_of_byte? read (ascii_of_isQuote quoted).1
  have after := place.cutLiteral quoted
  have size := after.size
  refine ⟨_, skipLiteral_eq quoted place, by omega, ?_, ?_⟩
  · rw [length_bytes]
    omega
  · rw [fromByte?_eq_some_iff.2 after]
    rfl

/-- What is read from a text is read within it: no byte past its end, no part of a character, no
depth below zero.  Each pass over the bytes finds what the reader of characters finds. -/
structure Faultless (text : List Char) : Prop where
  skipLiteral : ∀ start quote, isQuote quote = true → byte? text start = some quote →
    ∃ stop, skipLiteral text start quote = .ok stop ∧ start < stop ∧ stop ≤ (bytes text).length ∧
      (fromByte? stop text).isSome
  matchingClose : ∀ d : Delimiters, Ascii d.opener → Ascii d.closer →
    ∀ offset, matchingClose d text offset = .ok (d.close? text offset)
  stripComments : stripComments text = .ok (Source.stripComments text)
  blankLiterals : blankLiterals text = .ok (Source.blankLiterals text)
  literals : literals text = .ok (Source.literals text)
  template : ∀ offset, template text offset = .ok (templateAt? text offset)
  route : route text = .ok (Source.route text)
  calls : ∀ name, calls text name = .ok (Source.calls text name)
  typesEnd : ∀ start expected, typesEnd text start expected = .ok (typesEnd? text start expected)
  types : ∀ path, types text path = .ok (Declaration.types text path)
  apiFunctions : ∀ path, apiFunctions text path = .ok (Declaration.apiFunctions text path)
  hooks : ∀ path apis known,
    hooks text path apis known = .ok (Declaration.hooks text path apis known)
  component : ∀ file path known,
    component text file path known = .ok (component? text file path known)

theorem faultless (text : List Char) : Faultless text where
  skipLiteral _ _ := exists_skipLiteral
  matchingClose _ opener closer := matchingClose_eq ⟨opener, closer⟩ text
  stripComments := stripComments_eq text
  blankLiterals := blankLiterals_eq text
  literals := literals_eq text
  template := template_eq text
  route := route_eq text
  calls := calls_eq text
  typesEnd := typesEnd_eq text
  types := types_eq text
  apiFunctions := apiFunctions_eq text
  hooks := hooks_eq text
  component := component_eq text

/-- From the backslash on two bytes are skipped, which ends inside the next character. -/
theorem skipLiteral_escaped_wide : byte? ['\x27', '\\', 'é'] 0 = some '\x27' ∧
    ∃ stop, skipLiteral ['\x27', '\\', 'é'] 0 '\x27' = .ok stop ∧ 0 < stop ∧ stop ≤ 4 ∧
      (fromByte? stop ['\x27', '\\', 'é']).isSome :=
  ⟨by decide, (faultless ['\x27', '\\', 'é']).skipLiteral 0 '\x27' rfl (by decide)⟩

end FrontendAtlas.Bytes

import FrontendAtlas.Proofs.Declaration.InterfaceText
import FrontendAtlas.Proofs.Dict

namespace FrontendAtlas.Declaration

open FrontendAtlas.Text FrontendAtlas.Source

theorem stripFrom_members (members : List Member) (rest : List Char) :
    stripFrom .code (members.flatMap Member.print ++ rest) =
      members.flatMap Member.print ++ stripFrom .code rest := by
  induction members with
  | nil => rfl
  | cons member members ih =>
    rw [List.flatMap_cons, List.append_assoc, Member.stripFrom_print, ih, List.append_assoc]

theorem braces_split?_members (members : List Member) (p : Char) (rest : List Char) :
    Delimiters.braces.split? p 0 (members.flatMap Member.print ++ '}' :: rest) =
      some (members.flatMap Member.print, rest) := by
  induction members with
  | nil => simp [Delimiters.split?, Delimiters.braces, Delimiters.closesAfter]
  | cons member members ih =>
    rw [List.flatMap_cons, List.append_assoc, member.braces_split?_print _ p p, ih]
    rfl

theorem joinPieces_blank (done more pieces : List (List Char)) (blank : ∀ piece ∈ more, piece = []) :
    joinPieces done (more ++ pieces) = joinPieces done pieces := by
  induction more with
  | nil => rfl
  | cons piece more ih =>
    rw [List.forall_mem_cons] at blank
    rw [List.cons_append, blank.1, ← ih blank.2]
    cases done <;> rfl

theorem joinPieces_member (member : Member) {done : List (List Char)} (pieces : List (List Char))
    (finished : ∀ last ∈ done.head?, endsMidway last = false) :
    joinPieces done (member.text :: pieces) = joinPieces (member.text :: done) pieces := by
  obtain ⟨c, rest, -, split⟩ := member.text_eq_cons
  have nonempty : member.text.isEmpty = false := by rw [split]; rfl
  cases done with
  | nil => simp [joinPieces, member.trim_text, nonempty]
  | cons last before =>
    simp [joinPieces, member.trim_text, nonempty, member.opensMidway_text, finished last rfl]

theorem joinPieces_members (members : List Member) {done : List (List Char)} (previous : Char)
    (finished : ∀ last ∈ done.head?, endsMidway last = false) :
    joinPieces done (piecesFrom ⟨0, previous, none⟩ (members.flatMap Member.print)) =
      done.reverse ++ members.map Member.text := by
  induction members generalizing done previous with
  | nil => simp [piecesFrom, joinPieces, trim, trimStart, trimEnd]
  | cons member members ih =>
    obtain ⟨last, more, blank, pieces⟩ :=
      member.piecesFrom_print (members.flatMap Member.print) previous
    rw [List.flatMap_cons, pieces, List.cons_append, joinPieces_member member _ finished,
      joinPieces_blank _ _ _ blank, ih last]
    · simp
    · simp [member.endsMidway_text]

theorem members_body (interface : Interface) :
    members interface.body = interface.members.map Member.text := by
  have opening : piecesFrom {} interface.body =
      [] :: piecesFrom ⟨0, '\n', none⟩ (interface.members.flatMap Member.print) :=
    Member.piecesFrom_separator (by simp) _ _
  rw [members, opening]
  exact (joinPieces_blank [] [[]] _ (by simp)).trans (joinPieces_members _ '\n' (by simp))

theorem stripComments_body (interface : Interface) :
    stripComments interface.body = interface.body := by
  have members := stripFrom_members interface.members []
  simp only [List.append_nil, stripFrom] at members
  simp [stripComments, Interface.body, stripFrom, isQuote, members]

theorem nodup_map_ofList {texts : List (List Char)} (distinct : texts.Nodup) :
    (texts.map String.ofList).Nodup := by
  apply List.Pairwise.map String.ofList _ distinct
  intro a b other same
  exact other (by simpa using congrArg String.toList same)

theorem nodup_map_fst_ofList {δ α : Type} {declarations : List δ} {name : δ → List Char} {value : δ → α}
    (distinct : (declarations.map name).Nodup) :
    ((declarations.map fun d => (String.ofList (name d), value d)).map (·.1)).Nodup := by
  have names := nodup_map_ofList distinct
  rw [List.map_map] at names ⊢
  exact names

theorem properties_body (interface : Interface) (path : String) :
    properties interface.body = (interface.declaration path).properties := by
  have distinct : ((interface.members.map fun member =>
      (String.ofList member.key.name, String.ofList member.type.text)).map (·.1)).Nodup := by
    have names := nodup_map_ofList interface.distinct
    rw [List.map_map] at names ⊢
    exact names
  rw [properties, stripComments_body, members_body, Interface.declaration,
    Dict.ofList_eq_ofListFirst distinct, List.filterMap_map]
  congr 1
  rw [← List.filterMap_eq_map]
  congr 1
  funext member
  simp [member.property?_text]

theorem interfaceProperties_print (interface : Interface) (path : String) (rest : List Char) :
    interfaceProperties (' ' :: '{' :: (interface.body ++ '}' :: rest)) =
      (interface.declaration path).properties := by
  have head : afterTypes? false (' ' :: '{' :: (interface.body ++ '}' :: rest)) =
      some ('{' :: (interface.body ++ '}' :: rest)) := by
    rfl
  have body : Delimiters.braces.body? ('{' :: (interface.body ++ '}' :: rest)) =
      some (interface.body, rest) := by
    have members := braces_split?_members interface.members '\n' rest
    simp only [Delimiters.body?, Interface.body, List.cons_append, Delimiters.split?, members]
    rfl
  rw [interfaceProperties, head, Option.bind_some, body]
  exact properties_body interface path

theorem head_append (interface : Interface) (rest : List Char) : interface.head ++ rest =
    "export".toList ++ ' ' :: ("interface".toList ++ ' ' :: (interface.name.text ++ rest)) := by
  have regroup (a b c : List Char) : (a ++ ' ' :: (b ++ ' ' :: c)) ++ rest =
      a ++ ' ' :: (b ++ ' ' :: (c ++ rest)) := by simp
  exact regroup _ _ _

theorem notMem_signs_of_mem_head (interface : Interface) : ∀ c ∈ interface.head, c ∉ TypeState.signs := by
  have letters (text : List Char) (parts : text.all isIdentPart = true) : ∀ c ∈ text, c ∉ TypeState.signs :=
    fun c member => TypeState.notMem_signs_of_isIdentPart (List.all_eq_true.1 parts c member)
  have space : ' ' ∉ TypeState.signs := by decide
  delta Interface.head
  simp only [List.forall_mem_append, List.forall_mem_cons]
  exact ⟨letters _ (by decide +kernel), space, letters _ (by decide +kernel), space,
    letters _ interface.name.all_isIdentPart⟩

theorem exportedType?_head (interface : Interface) {rest : List Char}
    (stop : ∀ c ∈ rest.head?, isIdentPart c = false) :
    exportedType? (interface.head ++ rest) = some ((.interface, interface.name.text), rest) := by
  have visible : isBlank interface.name.first = false :=
    not_isBlank_of_isIdentPart (isIdentPart_of_isIdentStart interface.name.starts)
  have exported : keyword? "export" (interface.head ++ rest) =
      some ("interface".toList ++ ' ' :: (interface.name.text ++ rest)) := by
    rw [head_append]
    exact keyword?_append_space (by decide)
  have declared : skipKeyword "declare" ("interface".toList ++ ' ' :: (interface.name.text ++ rest)) =
      "interface".toList ++ ' ' :: (interface.name.text ++ rest) := rfl
  have kind : typeKind? ("interface".toList ++ ' ' :: (interface.name.text ++ rest)) =
      some (.interface, interface.name.text ++ rest) := by
    have keyword : keyword? "interface" ("interface".toList ++ ' ' :: (interface.name.text ++ rest)) =
        some (interface.name.text ++ rest) := keyword?_append_space visible
    rw [typeKind?, keyword]
    rfl
  have named : ident? (interface.name.text ++ rest) = some (interface.name.text, rest) :=
    ident?_append interface.name.starts (List.all_eq_true.1 interface.name.continues) stop
  simp only [exportedType?, exported, Option.bind_eq_bind, Option.bind_some, declared, kind, named,
    Option.pure_def]

theorem exportedType?_member (member : Member) (rest : List Char) :
    exportedType? (member.text ++ rest) = none := by
  have nothing : keyword? "export" (member.text ++ rest) = none := by
    cases readonly : member.readonly with
    | false =>
      simp only [Member.text, readonly, Bool.false_eq_true, if_false]
      exact member.keyword?_keyed_eq_none (by decide +kernel) rest
    | true =>
      simp only [Member.text, readonly, if_true]
      rfl
  rw [exportedType?, nothing]
  rfl

theorem hitsFrom_member (member : Member) (position : Nat) (before : Option Char) (rest : List Char) :
    ∃ position' before', hitsFrom typeHead 0 position before (member.print ++ rest) =
      hitsFrom typeHead 0 position' before' rest := by
  obtain ⟨c, text, first, split⟩ := member.text_eq_cons
  obtain ⟨_, run⟩ := member.run_text ' '
  have line := TypeState.newline_notMem_of_run run
  have refused := exportedType?_member member (member.ending.text ++ rest)
  have indent : c ≠ ' ' ∧ c ≠ '\t' := by
    constructor <;> rintro rfl <;> exact absurd first (by decide)
  rw [split] at line refused
  obtain ⟨last, inside, search⟩ := hitsFrom_refused position before indent line refused
  rw [Member.print, List.append_assoc, split, typeHead, search]
  obtain ⟨d, -, one | ⟨other, two⟩⟩ := member.ending.text_eq
  · rw [one]
    exact ⟨_, _, hitsFrom_inside d _ _ inside⟩
  · rw [two]
    exact ⟨_, _, (hitsFrom_inside d _ _ inside).trans (hitsFrom_inside '\n' _ _ other)⟩

theorem hitsFrom_members (members : List Member) (position : Nat) (before : Option Char)
    (rest : List Char) :
    ∃ position' before', hitsFrom typeHead 0 position before (members.flatMap Member.print ++ rest) =
      hitsFrom typeHead 0 position' before' rest := by
  induction members generalizing position before with
  | nil => exact ⟨position, before, rfl⟩
  | cons member members ih =>
    obtain ⟨position', before', step⟩ := hitsFrom_member member position before
      (members.flatMap Member.print ++ rest)
    obtain ⟨position'', before'', run⟩ := ih position' before'
    refine ⟨position'', before'', ?_⟩
    rw [List.flatMap_cons, List.append_assoc, step, run]

theorem hitsFrom_body (interface : Interface) (position : Nat) {before : Char} (inside : before ≠ '\n')
    (rest : List Char) :
    ∃ position', hitsFrom typeHead 0 position (some before)
        (' ' :: '{' :: (interface.body ++ '}' :: '\n' :: rest)) =
      hitsFrom typeHead 0 position' (some '\n') rest := by
  have opening : hitsFrom typeHead 0 position (some before)
        (' ' :: '{' :: (interface.body ++ '}' :: '\n' :: rest)) =
      hitsFrom typeHead 0 (position + 1 + 1 + 1) (some '\n')
        (interface.members.flatMap Member.print ++ '}' :: '\n' :: rest) := by
    rw [typeHead, hitsFrom_inside _ _ _ inside, hitsFrom_inside _ _ _ (by decide), Interface.body,
      List.cons_append, hitsFrom_inside _ _ _ (by decide)]
  obtain ⟨position', before', members⟩ := hitsFrom_members interface.members
    (position + 1 + 1 + 1) (some '\n') ('}' :: '\n' :: rest)
  obtain ⟨last, other, closing⟩ : ∃ last, last ≠ '\n' ∧
      hitsFrom typeHead 0 position' before' ('}' :: [] ++ '\n' :: rest) =
        hitsFrom typeHead 0 (position' + 1 + 0) (some last) ('\n' :: rest) :=
    hitsFrom_refused position' before' (by decide) (by decide) rfl
  exact ⟨_, opening.trans (members.trans (closing.trans (hitsFrom_inside _ _ _ other)))⟩

theorem hitsFrom_print (interface : Interface) {before : Option Char} (position : Nat)
    (start : before.all (· == '\n') = true) (rest : List Char) :
    ∃ position', hitsFrom typeHead 0 position before (interface.print ++ rest) =
      ⟨position, (.interface, interface.name.text), ' ' :: '{' :: (interface.body ++ '}' :: '\n' :: rest)⟩ ::
        hitsFrom typeHead 0 position' (some '\n') rest := by
  obtain ⟨more, head⟩ : ∃ more, interface.head = 'e' :: more := ⟨_, rfl⟩
  have line : '\n' ∉ interface.head := fun newline =>
    notMem_signs_of_mem_head interface _ newline (by decide)
  have fits : typeHead before (interface.head ++ ' ' :: '{' :: (interface.body ++ '}' :: '\n' :: rest)) =
      some ((.interface, interface.name.text), ' ' :: '{' :: (interface.body ++ '}' :: '\n' :: rest)) := by
    rw [← exportedType?_head interface (by simp; decide), head]
    exact atLineStart_cons start (by decide)
  rw [head] at fits line
  obtain ⟨last, member, found⟩ := hitsFrom_match position fits
  have inside : last ≠ '\n' := by
    rintro rfl
    exact line member
  obtain ⟨position', later⟩ := hitsFrom_body interface (position + 1 + more.length) inside rest
  refine ⟨position', ?_⟩
  rw [Interface.print, List.append_assoc, head]
  simpa [later] using found

theorem stripFrom_print (interface : Interface) (rest : List Char) :
    stripFrom .code (interface.print ++ rest) = interface.print ++ stripFrom .code rest := by
  have head : ∀ c ∈ interface.head ++ [' ', '{', '\n'], isQuote c = false ∧ c ≠ '/' := by
    rw [List.forall_mem_append]
    refine ⟨?_, by simp [isQuote]⟩
    intro c member
    have other := notMem_signs_of_mem_head interface c member
    simp only [TypeState.signs, List.mem_cons, not_or] at other
    simp [isQuote, other]
  have split (later : List Char) : interface.print ++ later = (interface.head ++ [' ', '{', '\n']) ++
      (interface.members.flatMap Member.print ++ (['}', '\n'] ++ later)) := by
    simp [Interface.print, Interface.body]
  rw [split, split, stripFrom_code_append head, stripFrom_members,
    stripFrom_code_append (by simp [isQuote])]

theorem stripComments_flatMap_print (interfaces : List Interface) :
    stripComments (interfaces.flatMap Interface.print) = interfaces.flatMap Interface.print := by
  rw [stripComments]
  induction interfaces with
  | nil => rfl
  | cons interface interfaces ih => rw [List.flatMap_cons, stripFrom_print, ih]

theorem hitsFrom_flatMap_print {α : Type} (interfaces : List Interface) {before : Option Char}
    (position : Nat) (start : before.all (· == '\n') = true)
    (read : Hit (TypeKind × List Char) → α) (expected : Interface → α)
    (reads : ∀ interface position rest, read ⟨position, (.interface, interface.name.text),
      ' ' :: '{' :: (interface.body ++ '}' :: rest)⟩ = expected interface) :
    (hitsFrom typeHead 0 position before (interfaces.flatMap Interface.print)).map read =
      interfaces.map expected := by
  induction interfaces generalizing position before with
  | nil => rfl
  | cons interface interfaces ih =>
    obtain ⟨position', found⟩ := hitsFrom_print interface position start
      (interfaces.flatMap Interface.print)
    rw [List.flatMap_cons, found, List.map_cons, List.map_cons, reads, ih position' rfl]

/-- The types of a module that declares interfaces of distinct names are these interfaces, each with
its properties as written. -/
theorem types_of_printed_interfaces (interfaces : List Interface)
    (distinct : (interfaces.map (·.name.text)).Nodup) (path : String) :
    types (interfaces.flatMap Interface.print) path =
      Dict.ofList (interfaces.map fun interface =>
        (String.ofList interface.name.text, interface.declaration path)) := by
  have names : ((interfaces.map fun interface =>
      (String.ofList interface.name.text, interface.declaration path)).map (·.1)).Nodup := by
    have texts := nodup_map_ofList distinct
    rw [List.map_map] at texts ⊢
    exact texts
  rw [Dict.ofList_eq_ofListFirst names, types, stripComments_flatMap_print, hits]
  congr 1
  apply hitsFrom_flatMap_print interfaces 0 rfl
  intro interface position rest
  simp only [if_true, interfaceProperties_print interface path]
  rfl

def accountInterface : Interface where
  name := ⟨'A', "ccount".toList, rfl, by decide +kernel⟩
  members :=
    [⟨true, .identifier ⟨'i', ['d'], rfl, by decide +kernel⟩, false,
        ⟨"string".toList, by decide, by decide, ⟨'g', rfl⟩, by decide⟩, .semicolonNewline⟩,
      ⟨false, .quoted .single "full-name".toList (by decide), true,
        ⟨"Map<'a;//', \x7b b: T[]; c: \"x\" \x7d> | null".toList, by decide, by decide, ⟨'l', rfl⟩, by decide⟩,
        .comma⟩,
      ⟨false, .identifier ⟨'o', "n".toList, rfl, by decide +kernel⟩, false,
        ⟨"(a: A, b: B) => void".toList, by decide, by decide, ⟨'d', rfl⟩, by decide⟩, .newline⟩]
  distinct := by decide

theorem types_of_printed_account : [accountInterface].flatMap Interface.print =
      ("export interface Account \x7b\nreadonly id: string;\n" ++
        "'full-name'?: Map<'a;//', \x7b b: T[]; c: \"x\" \x7d> | null,on: (a: A, b: B) => void\n\x7d\n").toList ∧
    types ([accountInterface].flatMap Interface.print) "src/types/account.ts" =
      Dict.ofList [("Account", ⟨"Account", .interface, Dict.ofList [("id", "string"),
        ("full-name", "Map<'a;//', \x7b b: T[]; c: \"x\" \x7d> | null"), ("on", "(a: A, b: B) => void")],
        "src/types/account.ts"⟩)] :=
  ⟨by decide +kernel, types_of_printed_interfaces [accountInterface] (by decide) "src/types/account.ts"⟩

end FrontendAtlas.Declaration

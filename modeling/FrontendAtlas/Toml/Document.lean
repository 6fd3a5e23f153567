import FrontendAtlas.Toml.Value

namespace FrontendAtlas.Toml

open FrontendAtlas.Json (Draft)

structure Table where
  header : List String := []
  isItem : Bool := false
  fields : List (String × Value) := []

def lineEnd? (tokens : List Token) : Option (List Token) :=
  match skipSpace tokens with
  | [] => some []
  | .newline :: rest => some rest
  | .comment :: .newline :: rest => some rest
  | [.comment] => some []
  | _ => none

def header? (tokens : List Token) : Option (Table × List Token) := do
  let (isItem, rest) := match tokens with
    | .openBracket :: rest => (true, rest)
    | tokens => (false, tokens)
  let (first, parts, rest) ← key? (skipSpace rest)
  match rest, isItem with
  | .closeBracket :: rest, false => return (⟨first :: parts, false, []⟩, ← lineEnd? rest)
  | .closeBracket :: .closeBracket :: rest, true => return (⟨first :: parts, true, []⟩, ← lineEnd? rest)
  | _, _ => none

def field? (tokens : List Token) : Option (String × List String × Value × List Token) := do
  let (first, parts, rest) ← key? tokens
  match skipSpace rest with
  | .equals :: rest =>
    let (value, rest) ← value? (rest.length + 1) (skipSpace rest)
    return (first, parts, value, ← lineEnd? rest)
  | _ => none

/-- The tables of a document, the current one included; `steps` bounds the number of lines.  The
fields before the first header count as a table only if there are any. -/
def tablesFrom? : (steps : Nat) → (current : Table) → List Token → Option (List Table)
  | steps, current, tokens =>
    let done := if current.header.isEmpty && current.fields.isEmpty then [] else [current]
    match steps, skipBlank tokens with
    | _, [] => some done
    | 0, _ => none
    | steps + 1, .openBracket :: rest => do
      let (next, rest) ← header? rest
      return done ++ (← tablesFrom? steps next rest)
    | steps + 1, tokens => do
      let (first, parts, value, rest) ← field? tokens
      let fields ← addField? first parts value current.fields
      tablesFrom? steps { current with fields } rest

def tablesUnder (name : String) (tables : List Table) : List Table :=
  tables.filterMap fun table =>
    match table.header with
    | first :: rest => if first = name then some { table with header := rest } else none
    | [] => none

def tablesBeside (name : String) (tables : List Table) : List Table :=
  tables.filter fun table => table.header.head? != some name

def itemTables : List Table → List (Table × List Table)
  | [] => []
  | table :: rest =>
    if table.header.isEmpty && table.isItem then
      (table, rest.takeWhile fun other => !(other.header.isEmpty && other.isItem)) :: itemTables rest
    else itemTables rest

/-- Joins tables to the fields of one object; `steps` bounds the headers.  A header may not come twice,
and a table that is no item of an array may not be given as one; `parent` is the header to compare
with, if it is not the first one. -/
def joinTables? : (steps : Nat) → (parent : Option (List String)) → List Table →
    Option (List (Option String × Draft))
  | _, _, [] => some []
  | 0, _, _ => none
  | steps + 1, parent, table :: rest =>
    if parent = some table.header then none
    else
      let parent := some <| match parent with
        | some header => if table.header.length < header.length then table.header else header
        | none => table.header
      match table.header with
      | [] => if table.isItem then none else do return fieldDrafts table.fields ++ (← joinTables? steps parent rest)
      | name :: inner => do
        let below := tablesUnder name (table :: rest)
        let draft ← if table.isItem && inner.isEmpty then do
            let items ← (itemTables below).mapM fun (item, tables) => do
              return Draft.object (fieldDrafts item.fields ++ (← joinTables? steps (some []) tables))
            pure (Draft.array items)
          else do pure (Draft.object (← joinTables? steps none below))
        return (some name, draft) :: (← joinTables? steps parent (tablesBeside name rest))

def document? (text : List Char) : Option Draft := do
  let tokens ← tokens? text
  let tables ← tablesFrom? tokens.length {} tokens
  let size := tables.foldl (fun size table => size + table.header.length + 1) 0
  return .object (← joinTables? size none tables)

end FrontendAtlas.Toml

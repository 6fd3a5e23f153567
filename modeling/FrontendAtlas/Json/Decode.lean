import FrontendAtlas.Json.Draft

namespace FrontendAtlas.Json

inductive Fault where
  | malformed
  | shape
  deriving DecidableEq

abbrev Decoder (α : Type) := Draft → Except Fault α

def Draft.mismatch : Draft → Fault
  | .fault | .number none | .string none => .malformed
  | _ => .shape

namespace Decode

variable {α β : Type}

def text : Decoder String
  | .string (some value) => .ok value
  | draft => .error draft.mismatch

def flag : Decoder Bool
  | .bool value => .ok value
  | draft => .error draft.mismatch

def optional (decoder : Decoder α) : Decoder (Option α)
  | .null => .ok none
  | draft => (decoder draft).map some

def items (decoder : Decoder α) : List Draft → Except Fault (List α)
  | [] => .ok []
  | item :: rest => do
    let value ← decoder item
    return value :: (← items decoder rest)

def list (decoder : Decoder α) : Decoder (List α)
  | .array elements => items decoder elements
  | draft => .error draft.mismatch

def entries (decoder : Decoder α) : List (Option String × Draft) → Except Fault (List (String × α))
  | [] => .ok []
  | (none, _) :: _ => .error .malformed
  | (some name, draft) :: rest => do
    let value ← decoder draft
    return (name, value) :: (← entries decoder rest)

def dict (decoder : Decoder α) : Decoder (Dict α)
  | .object fields => (entries decoder fields).map .ofList
  | draft => .error draft.mismatch

def value : Decoder Value := fun draft =>
  match draft.value? Value.maxDepth with
  | some value => .ok value
  | none => .error .malformed

/-- One of several words.  The word may also be the only field of an object, with null as its
value. -/
def word (ofWord? : String → Option α) : Decoder α
  | .string (some word) => (ofWord? word).elim (.error .shape) .ok
  | .object [(name, draft)] =>
    match name with
    | none => .error .malformed
    | some word =>
      match ofWord? word, draft with
      | none, _ => .error .shape
      | some value, .null => .ok value
      | some _, draft => .error draft.mismatch
  | .object ((some word, draft) :: _) =>
    match ofWord? word, draft with
    | none, _ => .error .shape
    | some _, .null => .error .malformed
    | some _, draft => .error draft.mismatch
  | _ => .error .malformed

end Decode

structure FieldRule where
  name : String
  check : Draft → Except Fault Unit

structure Shape (α : Type) where
  rules : List FieldRule
  build : (String → Option Draft) → Except Fault α

namespace Shape

variable {α β : Type}

instance : Functor Shape where
  map f shape := ⟨shape.rules, fun look => (shape.build look).map f⟩

instance : Applicative Shape where
  pure value := ⟨[], fun _ => .ok value⟩
  seq first second := ⟨first.rules ++ (second ()).rules, fun look => do
    let f ← first.build look
    return f (← (second ()).build look)⟩

def fieldWith (absent : Except Fault α) (name : String) (decoder : Decoder α) : Shape α :=
  ⟨[⟨name, fun draft => (decoder draft).map fun _ => ()⟩], fun look =>
    (look name).elim absent decoder⟩

def field (name : String) (decoder : Decoder α) : Shape α :=
  fieldWith (.error .shape) name decoder

def fieldOr (absent : α) (name : String) (decoder : Decoder α) : Shape α :=
  fieldWith (.ok absent) name decoder

/-- Checks the fields of an object in their order.  A known field may stand once; an unknown one is
passed over. -/
def checkFields (rules : List FieldRule) : (seen : List String) → List (Option String × Draft) →
    Except Fault Unit
  | _, [] => .ok ()
  | _, (none, _) :: _ => .error .malformed
  | seen, (some name, draft) :: rest =>
    match rules.find? (·.name == name) with
    | some rule => do
      if name ∈ seen then throw .shape
      rule.check draft
      checkFields rules (name :: seen) rest
    | none => if draft.isComplete then checkFields rules seen rest else .error .malformed

def checkItems : List FieldRule → List Draft → Except Fault Unit
  | _, [] => .ok ()
  | [], _ :: _ => .error .malformed
  | rule :: rules, draft :: rest => do
    rule.check draft
    checkItems rules rest

def lookField (fields : List (Option String × Draft)) (name : String) : Option Draft :=
  fields.lookup (some name)

def lookItem (rules : List FieldRule) (items : List Draft) (name : String) : Option Draft :=
  ((rules.map (·.name)).zip items).lookup name

def decode (shape : Shape α) : Decoder α
  | .object fields => do
    checkFields shape.rules [] fields
    shape.build (lookField fields)
  | .array items => do
    checkItems shape.rules items
    shape.build (lookItem shape.rules items)
  | draft => .error draft.mismatch

end Shape

def Document.decode {α : Type} (decoder : Decoder α) (text : List Char) : Except Fault α := do
  let document := Document.ofText text
  let data ← decoder document.root
  if document.ends then return data else throw .malformed

def Value.decode {α : Type} (decoder : Decoder α) (value : Value) : Except Fault α :=
  decoder (.ofValue value)

end FrontendAtlas.Json

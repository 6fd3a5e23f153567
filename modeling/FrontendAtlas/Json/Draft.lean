import FrontendAtlas.Json.Token
import FrontendAtlas.Json.Value

/-! JSON text as it is read from left to right.  A draft holds all of a text up to the place where it
stops being JSON, which a `fault` marks, so that a reader of drafts meets the faults of the text and
those of its own in the order in which they stand. -/

namespace FrontendAtlas.Json

inductive Draft where
  | null
  | bool (value : Bool)
  /-- None for a number too large. -/
  | number (value : Option Number)
  /-- None for a string with a lone surrogate. -/
  | string (value : Option String)
  | array (items : List Draft)
  | object (fields : List (Option String × Draft))
  | fault

instance : Inhabited Draft := ⟨.null⟩

structure Document where
  root : Draft
  ends : Bool

inductive Frame where
  | array (items : List Draft)
  | object (fields : List (Option String × Draft)) (name : Option String)

inductive Want where
  | value
  | valueOrClose
  | name
  | nameOrClose
  | colon
  | commaOrClose

namespace Frame

def add (part : Draft) : Frame → Frame
  | .array items => .array (part :: items)
  | .object fields name => .object ((name, part) :: fields) none

def draft : Frame → Draft
  | .array items => .array items.reverse
  | .object fields _ => .object fields.reverse

end Frame

def breakOff : List Frame → Draft
  | frames => frames.foldl (fun part frame => (frame.add part).draft) .fault

def Token.scalar? : Token → Option Draft
  | .null => some .null
  | .bool value => some (.bool value)
  | .number value => some (.number value)
  | .string value => some (.string value)
  | _ => none

def Frame.wantNext : Frame → Want
  | .array _ => .value
  | .object _ _ => .name

def documentFrom : List Frame → Want → List Token → Document
  | frames, _, [] => ⟨breakOff frames, false⟩
  | frames, .colon, .colon :: rest => documentFrom frames .value rest
  | .object fields _ :: frames, .name, .string name :: rest
  | .object fields _ :: frames, .nameOrClose, .string name :: rest =>
    documentFrom (.object fields name :: frames) .colon rest
  | frame :: frames, .commaOrClose, .comma :: rest => documentFrom (frame :: frames) frame.wantNext rest
  | .array items :: frames, .valueOrClose, .closeArray :: rest
  | .array items :: frames, .commaOrClose, .closeArray :: rest =>
    match frames with
    | [] => ⟨.array items.reverse, rest.isEmpty⟩
    | frame :: frames => documentFrom (frame.add (.array items.reverse) :: frames) .commaOrClose rest
  | .object fields _ :: frames, .nameOrClose, .closeObject :: rest
  | .object fields _ :: frames, .commaOrClose, .closeObject :: rest =>
    match frames with
    | [] => ⟨.object fields.reverse, rest.isEmpty⟩
    | frame :: frames => documentFrom (frame.add (.object fields.reverse) :: frames) .commaOrClose rest
  | frames, .value, token :: rest
  | frames, .valueOrClose, token :: rest =>
    match token with
    | .openArray => documentFrom (.array [] :: frames) .valueOrClose rest
    | .openObject => documentFrom (.object [] none :: frames) .nameOrClose rest
    | token =>
      match token.scalar?, frames with
      | none, _ => ⟨breakOff frames, false⟩
      | some part, [] => ⟨part, rest.isEmpty⟩
      | some part, frame :: frames => documentFrom (frame.add part :: frames) .commaOrClose rest
  | frames, _, _ :: _ => ⟨breakOff frames, false⟩

theorem documentFrom_comma {frame : Frame} {frames : List Frame} {rest : List Token} :
    documentFrom (frame :: frames) .commaOrClose (.comma :: rest) =
      documentFrom (frame :: frames) frame.wantNext rest := by
  simp [documentFrom]

def Document.ofText (text : List Char) : Document :=
  documentFrom [] .value (tokens text)

namespace Draft

mutual

def isComplete : Draft → Bool
  | .array items => allComplete items
  | .object fields => fieldsComplete fields
  | .fault => false
  | _ => true

def allComplete : List Draft → Bool
  | [] => true
  | item :: rest => item.isComplete && allComplete rest

def fieldsComplete : List (Option String × Draft) → Bool
  | [] => true
  | (_, value) :: rest => value.isComplete && fieldsComplete rest

end

mutual

/-- The value of a draft; arrays and objects may be nested `depth` deep.  Of fields with the same name
the last one counts. -/
def value? : (depth : Nat) → Draft → Option Value
  | _, .null => some .null
  | _, .bool value => some (.bool value)
  | _, .number value => value.map .number
  | _, .string value => value.map .string
  | 0, .array _ => none
  | depth + 1, .array items => (values? depth items).map .array
  | 0, .object _ => none
  | depth + 1, .object fields => (fields? depth fields).map fun entries => .dict (.ofList entries)
  | _, .fault => none

def values? : (depth : Nat) → List Draft → Option (List Value)
  | _, [] => some []
  | depth, item :: rest => do return (← item.value? depth) :: (← values? depth rest)

def fields? : (depth : Nat) → List (Option String × Draft) → Option (List (String × Value))
  | _, [] => some []
  | depth, (name, value) :: rest => do
    return (← name, ← value.value? depth) :: (← fields? depth rest)

end

mutual

def ofValue : Value → Draft
  | .null => .null
  | .bool value => .bool value
  | .number value => .number (some value)
  | .string value => .string (some value)
  | .array items => .array (ofValues items)
  | .object fields => .object (ofFields fields)

def ofValues : List Value → List Draft
  | [] => []
  | item :: rest => ofValue item :: ofValues rest

def ofFields : List (String × Value) → List (Option String × Draft)
  | [] => []
  | (name, value) :: rest => (some name, ofValue value) :: ofFields rest

end

end Draft

def Value.maxDepth : Nat := 127

def Value.parse? (text : List Char) : Option Value :=
  let document := Document.ofText text
  if document.ends then document.root.value? Value.maxDepth else none

end FrontendAtlas.Json

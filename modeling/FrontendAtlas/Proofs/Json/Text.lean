import FrontendAtlas.Json.Draft
import Mathlib

namespace FrontendAtlas.Json

theorem hexValue?_hexDigit {n : Nat} (small : n < 16) : LexState.hexValue? (hexDigit n) = some n := by
  have all : ∀ digit : Fin 16, LexState.hexValue? (hexDigit digit) = some digit.val := by decide
  exact all ⟨n, small⟩

theorem tokensFrom_unit {quoted : Quoted} {c : Char} (control : c.toNat < 0x20)
    (paired : quoted.leading = none) (rest : List Char) :
    tokensFrom (.string quoted)
        ('\\' :: 'u' :: '0' :: '0' :: hexDigit (c.toNat / 16) :: hexDigit (c.toNat % 16) :: rest) =
      tokensFrom (.string (quoted.push c)) rest := by
  have high := hexValue?_hexDigit (n := c.toNat / 16) (by omega)
  have low := hexValue?_hexDigit (n := c.toNat % 16) (by omega)
  have zero : LexState.hexValue? '0' = some 0 := by decide
  have value : (c.toNat / 16) * 16 + c.toNat % 16 = c.toNat := by omega
  have pushed : quoted.pushUnit c.toNat = quoted.push c := by
    simp [Quoted.pushUnit, paired, show ¬ 0xD800 ≤ c.toNat by omega, show ¬ 0xDC00 ≤ c.toNat by omega]
  simp [tokensFrom, LexState.step, LexState.unescape, zero, high, low, value, pushed]

theorem tokensFrom_escapeChar {quoted : Quoted} (paired : quoted.leading = none) (c : Char)
    (rest : List Char) :
    tokensFrom (.string quoted) (escapeChar c ++ rest) = tokensFrom (.string (quoted.push c)) rest := by
  fun_cases escapeChar c
  case case8 _ _ _ _ _ _ _ control => exact tokensFrom_unit control paired rest
  case case9 quote backslash _ _ _ _ _ plain =>
    have quote : c ≠ '\x22' := by rintro rfl; exact quote rfl
    have backslash : c ≠ '\\' := by rintro rfl; exact backslash rfl
    simp [tokensFrom, LexState.step, quote, backslash, plain]
  all_goals simp [tokensFrom, LexState.step, LexState.unescape]

theorem tokensFrom_flatMap_escapeChar (body text rest : List Char) :
    tokensFrom (.string ⟨body, none, true⟩) (text.flatMap escapeChar ++ '\x22' :: rest) =
      .string (some (String.ofList (body.reverse ++ text))) :: tokensFrom .between rest := by
  induction text generalizing body with
  | nil => simp [tokensFrom, LexState.step, Quoted.value?]
  | cons c text ih =>
    rw [List.flatMap_cons, List.append_assoc, tokensFrom_escapeChar rfl]
    simpa [Quoted.push] using ih (c :: body)

theorem tokensFrom_quote (text : String) (rest : List Char) :
    tokensFrom .between (quote text ++ rest) = .string (some text) :: tokensFrom .between rest := by
  have opened : tokensFrom .between (quote text ++ rest) =
      tokensFrom (.string ⟨[], none, true⟩) (text.toList.flatMap escapeChar ++ '\x22' :: rest) := by
    rw [quote, List.append_assoc]
    rfl
  rw [opened, tokensFrom_flatMap_escapeChar]
  simp

theorem tokensFrom_indent (depth : Nat) (rest : List Char) :
    tokensFrom .between (Value.indent depth ++ rest) = tokensFrom .between rest := by
  have spaces (n : Nat) : tokensFrom .between (List.replicate n ' ' ++ rest) = tokensFrom .between rest := by
    induction n with
    | zero => rfl
    | succ n ih => exact ih
  exact spaces (2 * depth)

namespace Value

mutual

def numberFree : Value → Bool
  | .number _ => false
  | .array items => allNumberFree items
  | .object fields => fieldsNumberFree fields
  | _ => true

def allNumberFree : List Value → Bool
  | [] => true
  | item :: rest => item.numberFree && allNumberFree rest

def fieldsNumberFree : List (String × Value) → Bool
  | [] => true
  | (_, value) :: rest => value.numberFree && fieldsNumberFree rest

end

theorem numberFree_array {α : Type} {encode : α → Value} (each : ∀ a, (encode a).numberFree = true)
    (elements : List α) : (array (elements.map encode)).numberFree = true := by
  have all : allNumberFree (elements.map encode) = true := by
    induction elements with
    | nil => rfl
    | cons a elements ih => simp [allNumberFree, each a, ih]
  exact all

theorem numberFree_object {α : Type} {encode : α → Value} (each : ∀ a, (encode a).numberFree = true)
    (entries : List (String × α)) :
    (object (entries.map fun entry => (entry.1, encode entry.2))).numberFree = true := by
  have all : fieldsNumberFree (entries.map fun entry => (entry.1, encode entry.2)) = true := by
    induction entries with
    | nil => rfl
    | cons entry entries ih => simp [fieldsNumberFree, each entry.2, ih]
  exact all

mutual

def tokens : Value → List Token
  | .null => [.null]
  | .bool value => [.bool value]
  | .number value => [.number (some value)]
  | .string value => [.string (some value)]
  | .array [] => [.openArray, .closeArray]
  | .array (item :: rest) => .openArray :: (item.tokens ++ itemTokens rest)
  | .object [] => [.openObject, .closeObject]
  | .object ((name, value) :: rest) =>
    .openObject :: .string (some name) :: .colon :: (value.tokens ++ fieldTokens rest)

def itemTokens : List Value → List Token
  | [] => [.closeArray]
  | item :: rest => .comma :: (item.tokens ++ itemTokens rest)

def fieldTokens : List (String × Value) → List Token
  | [] => [.closeObject]
  | (name, value) :: rest =>
    .comma :: .string (some name) :: .colon :: (value.tokens ++ fieldTokens rest)

end

mutual

theorem tokensFrom_prettyAt (value : Value) (plain : value.numberFree = true) (depth : Nat)
    (rest : List Char) :
    tokensFrom .between (value.prettyAt depth ++ rest) = value.tokens ++ tokensFrom .between rest := by
  match value, plain with
  | .null, _ => rfl
  | .bool true, _ => rfl
  | .bool false, _ => rfl
  | .string text, _ => exact tokensFrom_quote text rest
  | .array [], _ => rfl
  | .array (item :: items), plain =>
    obtain ⟨first, others⟩ := Bool.and_eq_true_iff.1 plain
    calc tokensFrom .between ((array (item :: items)).prettyAt depth ++ rest)
      _ = .openArray :: tokensFrom .between
          (indent (depth + 1) ++ (item.prettyAt (depth + 1) ++ (prettyItems depth items ++ rest))) := by
        simp only [prettyAt, List.cons_append, List.append_assoc]
        rfl
      _ = _ := by
        rw [tokensFrom_indent, tokensFrom_prettyAt item first, tokensFrom_prettyItems items others]
        simp [tokens]
  | .object [], _ => rfl
  | .object ((name, field) :: fields), plain =>
    obtain ⟨first, others⟩ := Bool.and_eq_true_iff.1 plain
    calc tokensFrom .between ((object ((name, field) :: fields)).prettyAt depth ++ rest)
      _ = .openObject :: tokensFrom .between (indent (depth + 1) ++ (quote name ++
          ':' :: ' ' :: (field.prettyAt (depth + 1) ++ (prettyFields depth fields ++ rest)))) := by
        simp only [prettyAt, List.cons_append, List.append_assoc]
        rfl
      _ = .openObject :: .string (some name) :: .colon :: tokensFrom .between
          (field.prettyAt (depth + 1) ++ (prettyFields depth fields ++ rest)) := by
        rw [tokensFrom_indent, tokensFrom_quote]
        rfl
      _ = _ := by
        rw [tokensFrom_prettyAt field first, tokensFrom_prettyFields fields others]
        simp [tokens]

theorem tokensFrom_prettyItems (items : List Value) (plain : allNumberFree items = true) (depth : Nat)
    (rest : List Char) :
    tokensFrom .between (prettyItems depth items ++ rest) = itemTokens items ++ tokensFrom .between rest := by
  match items, plain with
  | [], _ =>
    rw [prettyItems, List.append_assoc, tokensFrom_indent]
    rfl
  | item :: items, plain =>
    obtain ⟨first, others⟩ := Bool.and_eq_true_iff.1 plain
    calc tokensFrom .between (prettyItems depth (item :: items) ++ rest)
      _ = .comma :: tokensFrom .between
          (indent (depth + 1) ++ (item.prettyAt (depth + 1) ++ (prettyItems depth items ++ rest))) := by
        simp only [prettyItems, List.cons_append, List.append_assoc]
        rfl
      _ = _ := by
        rw [tokensFrom_indent, tokensFrom_prettyAt item first, tokensFrom_prettyItems items others]
        simp [itemTokens]

theorem tokensFrom_prettyFields (fields : List (String × Value)) (plain : fieldsNumberFree fields = true)
    (depth : Nat) (rest : List Char) :
    tokensFrom .between (prettyFields depth fields ++ rest) =
      fieldTokens fields ++ tokensFrom .between rest := by
  match fields, plain with
  | [], _ =>
    rw [prettyFields, List.append_assoc, tokensFrom_indent]
    rfl
  | (name, field) :: fields, plain =>
    obtain ⟨first, others⟩ := Bool.and_eq_true_iff.1 plain
    calc tokensFrom .between (prettyFields depth ((name, field) :: fields) ++ rest)
      _ = .comma :: tokensFrom .between (indent (depth + 1) ++ (quote name ++
          ':' :: ' ' :: (field.prettyAt (depth + 1) ++ (prettyFields depth fields ++ rest)))) := by
        simp only [prettyFields, List.cons_append, List.append_assoc]
        rfl
      _ = .comma :: .string (some name) :: .colon :: tokensFrom .between
          (field.prettyAt (depth + 1) ++ (prettyFields depth fields ++ rest)) := by
        rw [tokensFrom_indent, tokensFrom_quote]
        rfl
      _ = _ := by
        rw [tokensFrom_prettyAt field first, tokensFrom_prettyFields fields others]
        simp [fieldTokens]

end

end Value

def resume : List Frame → Draft → List Token → Document
  | [], part, rest => ⟨part, rest.isEmpty⟩
  | frame :: frames, part, rest => documentFrom (frame.add part :: frames) .commaOrClose rest

section Steps

variable {frames : List Frame} {want : Want} {rest : List Token}

theorem documentFrom_scalar {token : Token} {part : Draft} (scalar : token.scalar? = some part)
    (wanted : want = .value ∨ want = .valueOrClose) :
    documentFrom frames want (token :: rest) = resume frames part rest := by
  rcases wanted with rfl | rfl <;> cases token <;> cases scalar <;>
    rcases frames with _ | ⟨_ | _, _⟩ <;> rfl

theorem documentFrom_openArray (wanted : want = .value ∨ want = .valueOrClose) :
    documentFrom frames want (.openArray :: rest) = documentFrom (.array [] :: frames) .valueOrClose rest := by
  rcases wanted with rfl | rfl <;> simp [documentFrom]

theorem documentFrom_openObject (wanted : want = .value ∨ want = .valueOrClose) :
    documentFrom frames want (.openObject :: rest) =
      documentFrom (.object [] none :: frames) .nameOrClose rest := by
  rcases wanted with rfl | rfl <;> simp [documentFrom]

theorem documentFrom_closeArray {items : List Draft}
    (wanted : want = .commaOrClose ∨ want = .valueOrClose) :
    documentFrom (.array items :: frames) want (.closeArray :: rest) =
      resume frames (.array items.reverse) rest := by
  rcases wanted with rfl | rfl <;> cases frames <;> simp [documentFrom, resume]

theorem documentFrom_closeObject {fields : List (Option String × Draft)} {name : Option String}
    (wanted : want = .commaOrClose ∨ want = .nameOrClose) :
    documentFrom (.object fields name :: frames) want (.closeObject :: rest) =
      resume frames (.object fields.reverse) rest := by
  rcases wanted with rfl | rfl <;> cases frames <;> simp [documentFrom, resume]

theorem documentFrom_name {fields : List (Option String × Draft)} {name next : Option String}
    (wanted : want = .name ∨ want = .nameOrClose) :
    documentFrom (.object fields name :: frames) want (.string next :: .colon :: rest) =
      documentFrom (.object fields next :: frames) .value rest := by
  rcases wanted with rfl | rfl <;> simp [documentFrom]

end Steps

mutual

/-- The tokens of a value are read as the value, inside whatever frames and before whatever
tokens. -/
theorem documentFrom_tokens (value : Value) {want : Want}
    (wanted : want = .value ∨ want = .valueOrClose) (frames : List Frame) (rest : List Token) :
    documentFrom frames want (value.tokens ++ rest) = resume frames (.ofValue value) rest := by
  match value with
  | .null => exact documentFrom_scalar rfl wanted
  | .bool value => exact documentFrom_scalar rfl wanted
  | .number value => exact documentFrom_scalar rfl wanted
  | .string value => exact documentFrom_scalar rfl wanted
  | .array [] => exact (documentFrom_openArray wanted).trans (documentFrom_closeArray (.inr rfl))
  | .array (item :: items) =>
    calc documentFrom frames want ((Value.array (item :: items)).tokens ++ rest)
      _ = documentFrom (.array [] :: frames) .valueOrClose
          (item.tokens ++ (Value.itemTokens items ++ rest)) := by
        rw [Value.tokens, List.cons_append, documentFrom_openArray wanted, List.append_assoc]
      _ = documentFrom (.array [.ofValue item] :: frames) .commaOrClose (Value.itemTokens items ++ rest) :=
        documentFrom_tokens item (.inr rfl) _ _
      _ = _ := documentFrom_itemTokens items [.ofValue item] frames rest
  | .object [] => exact (documentFrom_openObject wanted).trans (documentFrom_closeObject (.inr rfl))
  | .object ((name, field) :: fields) =>
    calc documentFrom frames want ((Value.object ((name, field) :: fields)).tokens ++ rest)
      _ = documentFrom (.object [] (some name) :: frames) .value
          (field.tokens ++ (Value.fieldTokens fields ++ rest)) := by
        rw [Value.tokens, List.cons_append, documentFrom_openObject wanted, List.cons_append,
          List.cons_append, documentFrom_name (.inr rfl), List.append_assoc]
      _ = documentFrom (.object [(some name, .ofValue field)] none :: frames) .commaOrClose
          (Value.fieldTokens fields ++ rest) := documentFrom_tokens field (.inl rfl) _ _
      _ = _ := documentFrom_fieldTokens fields [(some name, .ofValue field)] frames rest

theorem documentFrom_itemTokens (items : List Value) (done : List Draft) (frames : List Frame)
    (rest : List Token) :
    documentFrom (.array done :: frames) .commaOrClose (Value.itemTokens items ++ rest) =
      resume frames (.array (done.reverse ++ Draft.ofValues items)) rest := by
  match items with
  | [] =>
    rw [Draft.ofValues, List.append_nil]
    exact documentFrom_closeArray (.inl rfl)
  | item :: items =>
    calc documentFrom (.array done :: frames) .commaOrClose (Value.itemTokens (item :: items) ++ rest)
      _ = documentFrom (.array done :: frames) .value (item.tokens ++ (Value.itemTokens items ++ rest)) := by
        rw [Value.itemTokens, List.cons_append, documentFrom_comma, List.append_assoc]
        rfl
      _ = documentFrom (.array (.ofValue item :: done) :: frames) .commaOrClose
          (Value.itemTokens items ++ rest) := documentFrom_tokens item (.inl rfl) _ _
      _ = _ := by
        rw [documentFrom_itemTokens items]
        simp [Draft.ofValues]

theorem documentFrom_fieldTokens (fields : List (String × Value)) (done : List (Option String × Draft))
    (frames : List Frame) (rest : List Token) :
    documentFrom (.object done none :: frames) .commaOrClose (Value.fieldTokens fields ++ rest) =
      resume frames (.object (done.reverse ++ Draft.ofFields fields)) rest := by
  match fields with
  | [] =>
    rw [Draft.ofFields, List.append_nil]
    exact documentFrom_closeObject (.inl rfl)
  | (name, field) :: fields =>
    calc
      _ = documentFrom (.object done (some name) :: frames) .value
          (field.tokens ++ (Value.fieldTokens fields ++ rest)) := by
        rw [Value.fieldTokens, List.cons_append, documentFrom_comma, List.cons_append, List.cons_append,
          List.append_assoc]
        exact documentFrom_name (.inl rfl)
      _ = documentFrom (.object ((some name, .ofValue field) :: done) none :: frames) .commaOrClose
          (Value.fieldTokens fields ++ rest) := documentFrom_tokens field (.inl rfl) _ _
      _ = _ := by
        rw [documentFrom_fieldTokens fields]
        simp [Draft.ofFields]

end

theorem Document.ofText_pretty {value : Value} (plain : value.numberFree = true) :
    Document.ofText (value.pretty ++ ['\n']) = ⟨.ofValue value, true⟩ := by
  have read : tokens (value.pretty ++ ['\n']) = value.tokens ++ [] :=
    value.tokensFrom_prettyAt plain 0 ['\n']
  rw [Document.ofText, read, documentFrom_tokens value (.inl rfl)]
  rfl

end FrontendAtlas.Json

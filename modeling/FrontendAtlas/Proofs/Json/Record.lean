import FrontendAtlas.Graph.NodeJson
import FrontendAtlas.Proofs.Dict
import FrontendAtlas.Proofs.Json.Shape

namespace FrontendAtlas.Json

variable {α β : Type}

namespace Draft

mutual

theorem isComplete_ofValue (value : Value) : (ofValue value).isComplete = true := by
  match value with
  | .null | .bool _ | .number _ | .string _ => rfl
  | .array items => exact allComplete_ofValues items
  | .object fields => exact fieldsComplete_ofFields fields

theorem allComplete_ofValues (items : List Value) : allComplete (ofValues items) = true := by
  match items with
  | [] => rfl
  | item :: items =>
    rw [ofValues, allComplete, isComplete_ofValue item, allComplete_ofValues items]
    rfl

theorem fieldsComplete_ofFields (fields : List (String × Value)) :
    fieldsComplete (ofFields fields) = true := by
  match fields with
  | [] => rfl
  | (name, value) :: fields =>
    rw [ofFields, fieldsComplete, isComplete_ofValue value, fieldsComplete_ofFields fields]
    rfl

end

end Draft

namespace Shape

structure Lawful (shape : Shape α) : Prop where
  check_of_build : ∀ {look a}, shape.build look = .ok a →
    ∀ rule ∈ shape.rules, ∀ draft, look rule.name = some draft → rule.check draft = .ok ()

namespace Lawful

theorem field {absent : Except Fault α} {name : String} {decoder : Decoder α} :
    (fieldWith absent name decoder).Lawful where
  check_of_build := by
    intro look a built rule known draft found
    cases List.mem_singleton.1 known
    have decoded : decoder draft = .ok a := by simpa [fieldWith, found] using built
    simp [decoded, Except.map]

theorem map {shape : Shape α} (lawful : shape.Lawful) (f : α → β) : (f <$> shape).Lawful where
  check_of_build := by
    intro look b built
    obtain ⟨a, built, -⟩ := build_map_eq_ok.1 built
    exact lawful.check_of_build built

theorem seq {first : Shape (α → β)} {second : Shape α} (head : first.Lawful) (last : second.Lawful) :
    (first <*> second).Lawful where
  check_of_build := by
    intro look b built rule known
    obtain ⟨f, a, builtFirst, builtSecond, -⟩ := build_seq_eq_ok.1 built
    cases List.mem_append.1 known with
    | inl known => exact head.check_of_build builtFirst rule known
    | inr known => exact last.check_of_build builtSecond rule known

end Lawful

theorem build_field {absent : Except Fault α} {name : String} {decoder : Decoder α}
    {look : String → Option Draft} {draft : Draft} {a : α} (found : look name = some draft)
    (decoded : decoder draft = .ok a) : (fieldWith absent name decoder).build look = .ok a := by
  simpa [fieldWith, found] using decoded

theorem build_absent {absent : Except Fault α} {name : String} {decoder : Decoder α}
    {look : String → Option Draft} (missing : look name = none) :
    (fieldWith absent name decoder).build look = absent := by
  simp [fieldWith, missing]

theorem build_map {shape : Shape α} {look : String → Option Draft} {a : α} (f : α → β)
    (built : shape.build look = .ok a) : (f <$> shape).build look = .ok (f a) :=
  build_map_eq_ok.2 ⟨a, built, rfl⟩

theorem build_seq {first : Shape (α → β)} {second : Shape α} {look : String → Option Draft} {f : α → β}
    {a : α} (head : first.build look = .ok f) (last : second.build look = .ok a) :
    (first <*> second).build look = .ok (f a) :=
  build_seq_eq_ok.2 ⟨f, a, head, last, rfl⟩

theorem checkFields_ofFields {rules : List FieldRule} {seen : List String} {fields : List (String × Value)}
    (distinct : (fields.map (·.1)).Nodup) (fresh : ∀ field ∈ fields, field.1 ∉ seen)
    (checked : ∀ field ∈ fields, ∀ rule ∈ rules, rule.name = field.1 →
      rule.check (.ofValue field.2) = .ok ()) :
    checkFields rules seen (Draft.ofFields fields) = .ok () := by
  induction fields generalizing seen with
  | nil => rfl
  | cons field fields ih =>
    obtain ⟨name, value⟩ := field
    rw [List.map_cons, List.nodup_cons] at distinct
    rw [List.forall_mem_cons] at fresh checked
    rw [Draft.ofFields, checkFields]
    cases known : rules.find? (·.name == name) with
    | none =>
      simp only [Draft.isComplete_ofValue, if_true]
      exact ih distinct.2 fresh.2 checked.2
    | some rule =>
      have accepted : rule.check (.ofValue value) = .ok () :=
        checked.1 rule (List.mem_of_find?_eq_some known) (by simpa using List.find?_some known)
      have freshRest : ∀ field ∈ fields, field.1 ∉ name :: seen := by
        intro field member
        rw [List.mem_cons, not_or]
        refine ⟨?_, fresh.2 field member⟩
        intro same
        exact distinct.1 (List.mem_map.2 ⟨field, member, same⟩)
      simp only [fresh.1, if_false, accepted]
      exact ih distinct.2 freshRest checked.2

theorem lookField_ofFields (fields : List (String × Value)) (name : String) :
    lookField (Draft.ofFields fields) name = (fields.lookup name).map .ofValue := by
  induction fields with
  | nil => rfl
  | cons field fields ih =>
    rw [lookField, Draft.ofFields, List.lookup_cons, Dict.lookup_cons_ite]
    by_cases same : name = field.1
    · simp [same]
    · have other : (some name == some field.1) = false := by simpa using same
      rw [other, if_neg same]
      exact ih

theorem decode_object {shape : Shape α} (lawful : shape.Lawful) {fields : List (String × Value)}
    (distinct : (fields.map (·.1)).Nodup) {a : α}
    (built : shape.build (fun name => (fields.lookup name).map .ofValue) = .ok a) :
    shape.decode (.ofValue (.object fields)) = .ok a := by
  have look : lookField (Draft.ofFields fields) = fun name => (fields.lookup name).map .ofValue :=
    funext (lookField_ofFields fields)
  have checked : checkFields shape.rules [] (Draft.ofFields fields) = .ok () := by
    apply checkFields_ofFields distinct (by simp)
    intro field member rule known same
    apply lawful.check_of_build built rule known
    have found : fields.lookup rule.name = some field.2 := by
      rw [same]
      exact (Dict.lookup_eq_some_iff_mem distinct).2 member
    simp [found]
  rw [Draft.ofValue, decode, checked, look]
  exact built

end Shape

def Value.sorted : Value → Value
  | .object fields => .dict (.ofList fields)
  | value => value

namespace Shape

structure Reads (shape : Shape α) (json : Value) (a : α) : Prop where
  written : shape.decode (.ofValue json) = .ok a
  sorted : shape.decode (.ofValue json.sorted) = .ok a

theorem Lawful.reads {shape : Shape α} (lawful : shape.Lawful) {fields : List (String × Value)}
    (distinct : (fields.map (·.1)).Nodup) {a : α}
    (built : shape.build (fun name => (fields.lookup name).map .ofValue) = .ok a) :
    shape.Reads (.object fields) a where
  written := decode_object lawful distinct built
  sorted := by
    have look (name : String) : (Dict.ofList fields).entries.lookup name = fields.lookup name :=
      Dict.get?_ofList_of_nodup distinct name
    apply decode_object lawful (Dict.ofList fields).nodup_keys
    simpa only [look] using built

end Shape

namespace Decode

variable {decoder : Decoder α} {encode : α → Value}

theorem list_array {elements : List α}
    (each : ∀ a ∈ elements, decoder (.ofValue (encode a)) = .ok a) :
    list decoder (.ofValue (.array (elements.map encode))) = .ok elements := by
  have all : items decoder (Draft.ofValues (elements.map encode)) = .ok elements := by
    induction elements with
    | nil => rfl
    | cons a elements ih =>
      rw [List.forall_mem_cons] at each
      rw [List.map_cons, Draft.ofValues, items, each.1, ih each.2]
      rfl
  exact all

theorem dict_json {data : Dict α}
    (each : ∀ entry ∈ data.entries, decoder (.ofValue (encode entry.2)) = .ok entry.2) :
    dict decoder (.ofValue (data.json encode)) = .ok data := by
  have all (fields : List (String × α))
      (each : ∀ entry ∈ fields, decoder (.ofValue (encode entry.2)) = .ok entry.2) :
      entries decoder (Draft.ofFields (fields.map fun entry => (entry.1, encode entry.2))) =
        .ok fields := by
    induction fields with
    | nil => rfl
    | cons entry fields ih =>
      rw [List.forall_mem_cons] at each
      rw [List.map_cons, Draft.ofFields, entries, each.1, ih each.2]
      rfl
  rw [Dict.json, Draft.ofValue, dict, all data.entries each]
  simp [Except.map]

end Decode

namespace Draft

variable {depth : Nat}

theorem fields?_cons {name : String} {value settled : Value} {fields rest : List (String × Value)}
    (first : (ofValue value).value? depth = some settled)
    (others : fields? depth (ofFields fields) = some rest) :
    fields? depth (ofFields ((name, value) :: fields)) = some ((name, settled) :: rest) := by
  simp [ofFields, fields?, first, others]

theorem fields?_of_each {fields : List (String × Value)}
    (each : ∀ field ∈ fields, (ofValue field.2).value? depth = some field.2) :
    fields? depth (ofFields fields) = some fields := by
  induction fields with
  | nil => rfl
  | cons field fields ih =>
    rw [List.forall_mem_cons] at each
    exact fields?_cons each.1 (ih each.2)

theorem value?_object {fields rest : List (String × Value)}
    (each : fields? depth (ofFields fields) = some rest) :
    (ofValue (.object fields)).value? (depth + 1) = some (Value.object rest).sorted := by
  simp [ofValue, value?, each, Value.sorted]

theorem value?_sorted {fields : List (String × Value)}
    (each : ∀ field ∈ fields, (ofValue field.2).value? depth = some field.2) :
    (ofValue (Value.object fields).sorted).value? (depth + 1) = some (Value.object fields).sorted := by
  have entries : fields? depth (ofFields (Dict.ofList fields).entries) = some (Dict.ofList fields).entries :=
    fields?_of_each fun field member => each field (Dict.mem_of_mem_entries_ofList member)
  have again := value?_object entries
  rwa [Value.sorted, Dict.ofList_entries] at again

theorem value?_array {encode settle : α → Value} {elements : List α}
    (each : ∀ a ∈ elements, (ofValue (encode a)).value? depth = some (settle a)) :
    (ofValue (.array (elements.map encode))).value? (depth + 1) = some (.array (elements.map settle)) := by
  have all : values? depth (ofValues (elements.map encode)) = some (elements.map settle) := by
    induction elements with
    | nil => rfl
    | cons a elements ih =>
      rw [List.forall_mem_cons] at each
      simp [ofValues, values?, each.1, ih each.2]
  simp [ofValue, value?, all]

theorem value?_json {data : Dict α} {encode settle : α → Value}
    (each : ∀ entry ∈ data.entries, (ofValue (encode entry.2)).value? depth = some (settle entry.2)) :
    (ofValue (data.json encode)).value? (depth + 1) = some (data.json settle) := by
  have all (fields : List (String × α))
      (each : ∀ entry ∈ fields, (ofValue (encode entry.2)).value? depth = some (settle entry.2)) :
      fields? depth (ofFields (fields.map fun entry => (entry.1, encode entry.2))) =
        some (fields.map fun entry => (entry.1, settle entry.2)) := by
    induction fields with
    | nil => rfl
    | cons entry fields ih =>
      rw [List.forall_mem_cons] at each
      exact fields?_cons each.1 (ih each.2)
  have unchanged : (Value.object (data.entries.map fun entry => (entry.1, settle entry.2))).sorted =
      data.json settle := by
    let mapped : Dict Value :=
      ⟨data.entries.map fun entry => (entry.1, settle entry.2), List.pairwise_map.2 data.sorted⟩
    exact congrArg Value.dict (Dict.ofList_entries mapped)
  rw [← unchanged]
  exact value?_object (all data.entries each)

end Draft

end FrontendAtlas.Json

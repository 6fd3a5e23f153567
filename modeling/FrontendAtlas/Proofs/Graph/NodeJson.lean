import FrontendAtlas.Graph.Basic
import FrontendAtlas.Proofs.Json.Record
import FrontendAtlas.Proofs.Json.Text

namespace FrontendAtlas

open FrontendAtlas.Json FrontendAtlas.Json.Shape

theorem TypeKind.ofName_name (kind : TypeKind) : TypeKind.ofName kind.name = kind := by
  cases kind <;> rfl

theorem EdgeKind.ofName?_name (kind : EdgeKind) : EdgeKind.ofName? kind.name = some kind := by
  cases kind <;> rfl

theorem optional_text_ofText? (text : Option String) :
    Decode.optional Decode.text (.ofValue (.ofText? text)) = .ok text := by
  cases text <;> rfl

theorem NameSet.decode_json (set : NameSet) : NameSet.decode (.ofValue set.json) = .ok set := by
  have names : Decode.list Decode.text (.ofValue (.names set.names)) = .ok set.names :=
    Decode.list_array fun _ _ => rfl
  rw [NameSet.decode, NameSet.json, names]
  simp [Except.map]

theorem TypeDeclaration.reads (node : TypeDeclaration) : shape.Reads node.json node := by
  obtain ⟨name, kind, properties, path⟩ := node
  have word : Decode.word (fun word => some (TypeKind.ofName word)) (.ofValue (.string kind.name)) =
      .ok kind := by
    simp [Draft.ofValue, Decode.word, TypeKind.ofName_name]
  have dict : Decode.dict Decode.text (.ofValue (properties.json .string)) = .ok properties :=
    Decode.dict_json fun _ _ => rfl
  have lawful : shape.Lawful := (((Lawful.field.map _).seq .field).seq .field).seq .field
  apply lawful.reads
  · simp
  refine build_seq (build_seq (build_seq (build_map _ ?_) ?_) ?_) ?_
  · exact build_field rfl rfl
  · exact build_field rfl word
  · exact build_field rfl dict
  · exact build_field rfl rfl

theorem ApiFunction.reads (node : ApiFunction) : shape.Reads node.json node := by
  obtain ⟨name, path, endpoint, method, responseType⟩ := node
  have word : Decode.optional (Decode.word HttpMethod.ofName?) (.ofValue (.ofText? (method.map (·.name)))) =
      .ok method := by
    cases method with
    | none => rfl
    | some method => cases method <;> rfl
  have lawful : shape.Lawful := ((((Lawful.field.map _).seq .field).seq .field).seq .field).seq .field
  apply lawful.reads
  · simp
  refine build_seq (build_seq (build_seq (build_seq (build_map _ ?_) ?_) ?_) ?_) ?_
  · exact build_field rfl rfl
  · exact build_field rfl rfl
  · exact build_field rfl (optional_text_ofText? endpoint)
  · exact build_field rfl word
  · exact build_field rfl rfl

theorem Hook.reads (node : Hook) : shape.Reads node.json node := by
  obtain ⟨name, path, binding, cacheKey, usesQuery, usesMutation, dependencies⟩ := node
  have key : Decode.optional (Decode.list Decode.text) (.ofValue (cacheKey.elim .null .names)) =
      .ok cacheKey := by
    cases cacheKey with
    | none => rfl
    | some names =>
      have list : Decode.list Decode.text (.ofValue (.names names)) = .ok names :=
        Decode.list_array fun _ _ => rfl
      exact congrArg (Except.map some) list
  have lawful : shape.Lawful :=
    ((((((Lawful.field.map _).seq .field).seq .field).seq .field).seq .field).seq .field).seq .field
  apply lawful.reads
  · simp
  refine build_seq (build_seq (build_seq (build_seq (build_seq (build_seq (build_map _ ?_) ?_) ?_) ?_) ?_) ?_) ?_
  · exact build_field rfl rfl
  · exact build_field rfl rfl
  · exact build_field rfl (optional_text_ofText? binding)
  · exact build_field rfl key
  · exact build_field rfl rfl
  · exact build_field rfl rfl
  · exact build_field rfl (NameSet.decode_json dependencies)

theorem Component.reads (node : Component) : shape.Reads node.json node := by
  obtain ⟨name, path, hooks, callsNetwork⟩ := node
  have lawful : shape.Lawful := (((Lawful.field.map _).seq .field).seq .field).seq .field
  apply lawful.reads
  · simp
  refine build_seq (build_seq (build_seq (build_map _ ?_) ?_) ?_) ?_
  · exact build_field rfl rfl
  · exact build_field rfl rfl
  · exact build_field rfl (NameSet.decode_json hooks)
  · exact build_field rfl rfl

theorem Edge.reads (edge : Edge) : shape.Reads edge.json edge := by
  obtain ⟨source, target, kind⟩ := edge
  have word : Decode.word EdgeKind.ofName? (.ofValue (.string kind.name)) = .ok kind := by
    simp [Draft.ofValue, Decode.word, EdgeKind.ofName?_name]
  have lawful : shape.Lawful := ((Lawful.field.map _).seq .field).seq .field
  apply lawful.reads
  · simp
  refine build_seq (build_seq (build_map _ ?_) ?_) ?_
  · exact build_field rfl rfl
  · exact build_field rfl rfl
  · exact build_field rfl word

section Values

open Draft

variable {depth : Nat}

theorem value?_names (names : List String) :
    (ofValue (.names names)).value? (depth + 1) = some (.names names) :=
  value?_array fun _ _ => rfl

theorem value?_ofText? (text : Option String) :
    (ofValue (.ofText? text)).value? depth = some (.ofText? text) := by
  cases text <;> cases depth <;> rfl

theorem TypeDeclaration.value?_json (node : TypeDeclaration) :
    (ofValue node.json).value? (depth + 2) = some node.json.sorted := by
  have properties : (ofValue (node.properties.json .string)).value? (depth + 1) =
      some (node.properties.json .string) := Draft.value?_json fun _ _ => by cases depth <;> rfl
  exact value?_object (fields?_cons rfl (fields?_cons rfl (fields?_cons properties (fields?_cons rfl rfl))))

theorem ApiFunction.value?_json (node : ApiFunction) :
    (ofValue node.json).value? (depth + 2) = some node.json.sorted :=
  value?_object (fields?_cons rfl (fields?_cons rfl (fields?_cons (value?_ofText? _)
    (fields?_cons (value?_ofText? _) (fields?_cons rfl rfl)))))

theorem Hook.value?_json (node : Hook) : (ofValue node.json).value? (depth + 2) = some node.json.sorted := by
  have key : (ofValue (node.cacheKey.elim .null .names)).value? (depth + 1) =
      some (node.cacheKey.elim .null .names) := by
    cases node.cacheKey with
    | none => rfl
    | some names => exact value?_names names
  exact value?_object (fields?_cons rfl (fields?_cons rfl (fields?_cons (value?_ofText? _)
    (fields?_cons key (fields?_cons rfl (fields?_cons rfl (fields?_cons (value?_names _) rfl)))))))

theorem Component.value?_json (node : Component) :
    (ofValue node.json).value? (depth + 2) = some node.json.sorted :=
  value?_object (fields?_cons rfl (fields?_cons rfl (fields?_cons (value?_names _) (fields?_cons rfl rfl))))

theorem Edge.value?_json (edge : Edge) : (ofValue edge.json).value? (depth + 2) = some edge.json.sorted :=
  value?_object (fields?_cons rfl (fields?_cons rfl (fields?_cons rfl rfl)))

end Values

section NumberFree

open Value

theorem numberFree_ofText? (text : Option String) : (ofText? text).numberFree = true := by
  cases text <;> rfl

theorem numberFree_names (list : List String) : (names list).numberFree = true :=
  numberFree_array (fun _ => rfl) list

theorem Dict.numberFree_json {α : Type} {encode : α → Value} (each : ∀ a, (encode a).numberFree = true)
    (data : Dict α) : (data.json encode).numberFree = true :=
  numberFree_object each data.entries

theorem TypeDeclaration.numberFree_json (node : TypeDeclaration) : node.json.numberFree = true := by
  have properties : (node.properties.json .string).numberFree = true := Dict.numberFree_json (fun _ => rfl) _
  simp [json, numberFree, fieldsNumberFree, properties]

theorem ApiFunction.numberFree_json (node : ApiFunction) : node.json.numberFree = true := by
  simp [json, numberFree, fieldsNumberFree, numberFree_ofText?]

theorem Hook.numberFree_json (node : Hook) : node.json.numberFree = true := by
  have key : (node.cacheKey.elim .null names).numberFree = true := by
    cases node.cacheKey with
    | none => rfl
    | some list => exact numberFree_names list
  simp [json, numberFree, fieldsNumberFree, numberFree_ofText?, key, NameSet.json, numberFree_names]

theorem Component.numberFree_json (node : Component) : node.json.numberFree = true := by
  simp [json, numberFree, fieldsNumberFree, NameSet.json, numberFree_names]

theorem Edge.numberFree_json (edge : Edge) : edge.json.numberFree = true := by
  simp [json, numberFree, fieldsNumberFree]

end NumberFree

end FrontendAtlas

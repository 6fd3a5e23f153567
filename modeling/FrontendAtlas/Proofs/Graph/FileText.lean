import FrontendAtlas.Contract.Snapshot
import FrontendAtlas.Proofs.Graph.NodeJson

namespace FrontendAtlas

open FrontendAtlas.Json FrontendAtlas.Json.Shape

namespace Graph

theorem reads (graph : Graph) : shape.Reads graph.json graph := by
  obtain ⟨version, generatedAt, ⟨types, apis, hooks, components⟩, edges⟩ := graph
  have lawful : shape.Lawful :=
    ((((((Lawful.field.map _).seq .field).seq .field).seq .field).seq .field).seq .field).seq .field
  apply lawful.reads
  · simp
  refine build_seq (build_seq (build_seq (build_seq (build_seq (build_seq (build_map _ ?_) ?_) ?_) ?_) ?_) ?_) ?_
  · exact build_field rfl rfl
  · exact build_field rfl rfl
  · exact build_field rfl (Decode.dict_json fun entry _ => entry.2.reads.written)
  · exact build_field rfl (Decode.dict_json fun entry _ => entry.2.reads.written)
  · exact build_field rfl (Decode.dict_json fun entry _ => entry.2.reads.written)
  · exact build_field rfl (Decode.dict_json fun entry _ => entry.2.reads.written)
  · exact build_field rfl (Decode.list_array fun edge _ => edge.reads.written)

theorem numberFree_json (graph : Graph) : graph.json.numberFree = true := by
  have edges : Value.allNumberFree (graph.edges.map (·.json)) = true :=
    Value.numberFree_array (fun edge => edge.numberFree_json) graph.edges
  simp [json, Value.numberFree, Value.fieldsNumberFree, Dict.numberFree_json, edges,
    TypeDeclaration.numberFree_json, ApiFunction.numberFree_json, Hook.numberFree_json,
    Component.numberFree_json]

theorem ofText_fileText (graph : Graph) :
    Document.ofText graph.fileText.toList = ⟨.ofValue graph.json, true⟩ := by
  rw [fileText, String.toList_ofList]
  exact Document.ofText_pretty graph.numberFree_json

theorem ofFileText_fileText (graph : Graph) : ofFileText graph.fileText = .ok graph := by
  rw [ofFileText, Document.decode, ofText_fileText, graph.reads.written]
  rfl

def settledFields (graph : Graph) : List (String × Value) :=
  [("version", .string graph.version),
    ("generated_at", .string graph.generatedAt),
    ("types", graph.nodes.types.json (·.json.sorted)),
    ("api_functions", graph.nodes.apis.json (·.json.sorted)),
    ("hooks", graph.nodes.hooks.json (·.json.sorted)),
    ("components", graph.nodes.components.json (·.json.sorted)),
    ("edges", .array (graph.edges.map (·.json.sorted)))]

theorem parse?_fileText (graph : Graph) :
    Value.parse? graph.fileText.toList = some (Value.object graph.settledFields).sorted := by
  rw [Value.parse?, ofText_fileText]
  apply Draft.value?_object
  refine Draft.fields?_cons rfl (Draft.fields?_cons rfl (Draft.fields?_cons ?_ (Draft.fields?_cons ?_
    (Draft.fields?_cons ?_ (Draft.fields?_cons ?_ (Draft.fields?_cons ?_ rfl))))))
  · exact Draft.value?_json fun entry _ => entry.2.value?_json
  · exact Draft.value?_json fun entry _ => entry.2.value?_json
  · exact Draft.value?_json fun entry _ => entry.2.value?_json
  · exact Draft.value?_json fun entry _ => entry.2.value?_json
  · exact Draft.value?_array fun edge _ => edge.value?_json

end Graph

theorem Edge.decode_value_sorted (edge : Edge) :
    Decode.value (.ofValue edge.json.sorted) = .ok edge.json.sorted := by
  have settled : (Draft.ofValue edge.json.sorted).value? (126 + 1) = some edge.json.sorted := by
    apply Draft.value?_sorted
    simp [Draft.ofValue, Draft.value?]
  rw [Decode.value, Value.maxDepth, settled]

namespace Contract.Snapshot

theorem missingSections_settledFields (graph : Graph) :
    missingSections (Value.object graph.settledFields).sorted = ["controllers", "dtos"] := by
  have look (name : String) : (Dict.ofList graph.settledFields).entries.lookup name =
      graph.settledFields.lookup name :=
    Dict.get?_ofList_of_nodup (by simp [Graph.settledFields]) name
  simp only [Value.sorted, Value.dict, missingSections, look]
  rfl

theorem reads_settledFields (graph : Graph) (missing : List String) :
    (shape missing).Reads (.object graph.settledFields)
      ⟨graph.nodes, graph.edges.map (·.json.sorted), ∅, ∅, missing⟩ := by
  have lawful : (shape missing).Lawful :=
    ((((((Lawful.field.map _).seq .field).seq .field).seq .field).seq .field).seq .field).seq .field
  have edges : Decode.list Decode.value (.ofValue (.array (graph.edges.map (·.json.sorted)))) =
      .ok (graph.edges.map (·.json.sorted)) := by
    have each : ∀ value ∈ graph.edges.map (·.json.sorted), Decode.value (.ofValue (id value)) = .ok value := by
      simp [Edge.decode_value_sorted]
    have list := Decode.list_array each
    rwa [List.map_id] at list
  apply lawful.reads
  · simp [Graph.settledFields]
  refine build_seq (build_seq (build_seq (build_seq (build_seq (build_seq (build_map _ ?_) ?_) ?_) ?_) ?_) ?_) ?_
  · exact build_field rfl (Decode.dict_json fun entry _ => entry.2.reads.sorted)
  · exact build_field rfl (Decode.dict_json fun entry _ => entry.2.reads.sorted)
  · exact build_field rfl (Decode.dict_json fun entry _ => entry.2.reads.sorted)
  · exact build_field rfl (Decode.dict_json fun entry _ => entry.2.reads.sorted)
  · exact build_field rfl edges
  · exact build_absent rfl
  · exact build_absent rfl

theorem ofText_fileText (graph : Graph) : ofText graph.fileText =
    .ok ⟨graph.nodes, graph.edges.map (·.json.sorted), ∅, ∅, ["controllers", "dtos"]⟩ := by
  rw [ofText, graph.parse?_fileText]
  dsimp only
  rw [missingSections_settledFields, Value.decode, (reads_settledFields graph _).sorted]
  rfl

end Contract.Snapshot

end FrontendAtlas

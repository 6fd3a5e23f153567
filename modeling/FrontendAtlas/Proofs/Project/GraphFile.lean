import FrontendAtlas.Project.GraphFile
import FrontendAtlas.Proofs.Files.Write
import FrontendAtlas.Proofs.Graph.FileText
import FrontendAtlas.Proofs.Project.SnapshotLoading

namespace FrontendAtlas

open FrontendAtlas.Contract

def Graph.snapshot (graph : Graph) : Snapshot :=
  ⟨graph.nodes, graph.edges.map (·.json.sorted), ∅, ∅, ["controllers", "dtos"]⟩

namespace Project

variable {space : Workspace} {graph : Graph} {path : String} {tree : FileTree}

theorem writeGraph_eq_ok : writeGraph space graph path = .ok tree ↔ graph.nodes.types.isEmpty = false ∧
    space.tree.write? space.directory path (.text graph.fileText) = some tree := by
  rw [writeGraph]
  cases graph.nodes.types.isEmpty <;>
    cases space.tree.write? space.directory path (.text graph.fileText) <;> simp

theorem exists_writeGraph_iff (wellFormed : space.WellFormed) (typed : graph.nodes.types.isEmpty = false) :
    (∃ tree, writeGraph space graph path = .ok tree) ↔ space.Writable path := by
  simp only [writeGraph_eq_ok, typed, true_and]
  exact Workspace.exists_write?_iff wellFormed _

section Written

variable (wellFormed : space.WellFormed) (written : writeGraph space graph path = .ok tree)

include wellFormed written

theorem entry?_of_writeGraph :
    Workspace.entry? ⟨tree, space.directory⟩ path = some (.file (.text graph.fileText)) :=
  Workspace.found_of_write? wellFormed (writeGraph_eq_ok.1 written).2

theorem readText?_of_writeGraph : Workspace.readText? ⟨tree, space.directory⟩ path = some graph.fileText := by
  have found := Workspace.read?_eq_some_iff.2 (entry?_of_writeGraph wellFormed written)
  rw [Workspace.readText?, found]
  rfl

theorem readGraph_of_writeGraph : readGraph ⟨tree, space.directory⟩ path = .ok graph := by
  rw [readGraph, readText?_of_writeGraph wellFormed written]
  exact congrArg (Except.mapError Failure.json) graph.ofFileText_fileText

theorem decodes_of_writeGraph : Decodes ⟨tree, space.directory⟩ path graph.snapshot :=
  ⟨_, entry?_of_writeGraph wellFormed written, Snapshot.ofText_fileText graph⟩

end Written

end Project

/-- A graph with types is written wherever a file can be.  Then both readers understand the file: read as a
graph it is the graph itself, read as a snapshot it has the same nodes and as many edges, and lacks just the
sections of the back end. -/
theorem Graph.file_read_back (graph : Graph) (typed : graph.nodes.types.isEmpty = false) {space : Workspace}
    (wellFormed : space.WellFormed) (path : String) :
    ((∃ tree, Project.writeGraph space graph path = .ok tree) ↔ space.Writable path) ∧
    ∀ tree, Project.writeGraph space graph path = .ok tree →
      Project.readGraph ⟨tree, space.directory⟩ path = .ok graph ∧
      ∃ text snapshot, Workspace.readText? ⟨tree, space.directory⟩ path = some text ∧
        Snapshot.ofText text = .ok snapshot ∧
        Project.loadSnapshot ⟨tree, space.directory⟩ path = .ok snapshot ∧
        snapshot.nodes = graph.nodes ∧ snapshot.edges.length = graph.edges.length ∧
        snapshot.controllers = ∅ ∧ snapshot.dtos = ∅ ∧ snapshot.missing = ["controllers", "dtos"] ∧
        snapshot.stats = graph.stats := by
  refine ⟨Project.exists_writeGraph_iff wellFormed typed, fun tree written => ?_⟩
  have loaded := Project.loadSnapshot_eq_ok.2 (Project.decodes_of_writeGraph wellFormed written)
  refine ⟨Project.readGraph_of_writeGraph wellFormed written, graph.fileText, graph.snapshot,
    Project.readText?_of_writeGraph wellFormed written, Snapshot.ofText_fileText graph, loaded, rfl, ?_, rfl,
    rfl, rfl, ?_⟩
  · simp [Graph.snapshot]
  · simp [Graph.snapshot, Snapshot.stats, Graph.stats]

def quotedGraph : Graph where
  version := "1.0.0"
  generatedAt := "\t\x01\\\""
  nodes :=
    { types := ⟨[("a\"b", ⟨"a\"b", .other, ⟨[("é\n", "😀")], by simp⟩, ""⟩)], by simp⟩
      apis := ⟨[("get", ⟨"get", "src", none, some .delete, "void"⟩)], by simp⟩
      hooks := ⟨[("useIt", ⟨"useIt", "src", none, some ["k"], true, false, ⟨["get"], by simp⟩⟩)], by simp⟩ }
  edges := [⟨"useIt", "", .dependency⟩, ⟨"useIt", "", .dependency⟩]

def olderSpace : Workspace where
  tree := ⟨[(["work"], .directory), (["work", "graph.json"], .file (.text "[]"))], by simp⟩
  directory := ["work"]

theorem Graph.file_read_back_quoted : quotedGraph.nodes.types.isEmpty = false ∧ olderSpace.WellFormed ∧
    ∃ tree, Project.writeGraph olderSpace quotedGraph "out/../graph.json" = .ok tree ∧
      Project.readGraph ⟨tree, ["work"]⟩ "out/../graph.json" = .ok quotedGraph ∧
      ∃ snapshot, Project.loadSnapshot ⟨tree, ["work"]⟩ "out/../graph.json" = .ok snapshot ∧
        snapshot.stats = ⟨1, 1, 1, 0, 2⟩ := by
  have wellFormed : olderSpace.WellFormed := ⟨FileTree.closed_of_entries (by decide +kernel), rfl⟩
  have writable : olderSpace.Writable "out/../graph.json" :=
    ⟨by decide +kernel, by decide +kernel, by decide +kernel, by decide +kernel⟩
  obtain ⟨written, read⟩ := Graph.file_read_back quotedGraph rfl wellFormed "out/../graph.json"
  obtain ⟨tree, written⟩ := written.2 writable
  obtain ⟨graph, -, snapshot, -, -, loaded, -, -, -, -, -, stats⟩ := read tree written
  exact ⟨rfl, wellFormed, tree, written, graph, snapshot, loaded, stats⟩

end FrontendAtlas

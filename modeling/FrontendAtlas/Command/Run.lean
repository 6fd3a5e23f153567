import FrontendAtlas.Command.Invocation
import FrontendAtlas.Project.Extraction
import FrontendAtlas.Project.GraphFile
import FrontendAtlas.Project.Verification
import FrontendAtlas.Settings.File

namespace FrontendAtlas.Command

open FrontendAtlas.Contract (Snapshot Report)

structure Outcome where
  exit : Nat
  output : String := ""
  errors : String := ""
  tree : FileTree

def exitUnloadable : Nat := 2

def lines (texts : List String) : String :=
  String.join (texts.map (· ++ "\n"))

def anchored (root path : String) : String :=
  if Path.isAbsolute path then path else Path.join root path

def generatorSettings (root : String) (settings : GeneratorSettings) (sourceRoot outputDir : Option String) :
    GeneratorSettings :=
  { settings with
    sourceRoot := (sourceRoot.map (anchored root)).getD settings.sourceRoot
    outputDir := (outputDir.map (anchored root)).getD settings.outputDir }

def generate (space : Workspace) (settings : GeneratorSettings) (now : String) : Except Failure Outcome := do
  let graph ← Project.graph space settings now
  let path := settings.outputPath
  let tree ← Project.writeGraph space graph path
  return { exit := 0, output := lines ["Frontend graph written to " ++ path, "  " ++ graph.stats.text], tree }

def generating (directory : Location) (settings : GeneratorSettings) (now : String) : Change String := do
  let graph ← MonadExcept.ofExcept (Project.graph ⟨← get, directory⟩ settings now)
  let path := settings.outputPath
  Project.saveGraph directory graph path
  return lines ["Frontend graph written to " ++ path, "  " ++ graph.stats.text]

/-- Goes on with a snapshot.  One that cannot be loaded ends the run with an exit code of its own. -/
def withSnapshot (space : Workspace) (loaded : Except Failure Snapshot) (go : Snapshot → Outcome) :
    Except Failure Outcome :=
  match loaded with
  | .ok snapshot => .ok (go snapshot)
  | .error failure =>
    if failure.concernsSnapshot then
      .ok { exit := exitUnloadable, errors := lines ["ERROR: " ++ failure.message], tree := space.tree }
    else .error failure

def verify (space : Workspace) (settings : VerifierSettings) (path : String) (json : Bool) :
    Except Failure Outcome :=
  withSnapshot space (Project.loadChecked space settings path) fun snapshot =>
    let report := Report.ofSnapshot snapshot settings.allowed
    let output := if json then lines [String.ofList report.json.pretty] else report.text
    { exit := report.exitCode, output, tree := space.tree }

def statsLines (snapshot : Snapshot) : List String :=
  let stats := snapshot.stats
  ["Strata - Graph Statistics",
    String.ofList (List.replicate 25 '═'),
    "",
    "Types:          " ++ toString stats.types,
    "API functions:  " ++ toString stats.apis,
    "Hooks:          " ++ toString stats.hooks,
    "Components:     " ++ toString stats.components,
    "Edges:          " ++ toString stats.edges] ++
    if snapshot.controllers.isEmpty && snapshot.dtos.isEmpty then []
    else ["Controllers:    " ++ toString snapshot.controllers.size, "DTOs:           " ++ toString snapshot.dtos.size]

def stats (space : Workspace) (path : String) : Except Failure Outcome :=
  withSnapshot space (Project.loadSnapshot space path) fun snapshot =>
    { exit := 0, output := lines (statsLines snapshot), tree := space.tree }

def rootPath (space : Workspace) (root : String) : String :=
  (space.locate? root).elim root Location.path

def snapshotPath (root : String) (named : Option String) (settings : VerifierSettings) : String :=
  (named.map (anchored root)).getD settings.baselinePath

def settings (space : Workspace) (root : String) : Settings :=
  (Settings.load space (Settings.file root)).resolve root

def reads (space : Workspace) (invocation : Invocation) : List String :=
  let root := rootPath space invocation.root
  let settings := settings space root
  match invocation.task with
  | .generate sourceRoot outputDir =>
    let generator := generatorSettings root settings.generator sourceRoot outputDir
    [generator.fullTypesPath, generator.fullApiDir, generator.fullHooksDir, generator.fullComponentsDir]
  | .verify snapshot _ _ | .stats snapshot => [snapshotPath root snapshot settings.verifier]

def run (space : Workspace) (invocation : Invocation) (now : String) : Except Failure Outcome :=
  let root := rootPath space invocation.root
  let settings := settings space root
  match invocation.task with
  | .generate sourceRoot outputDir =>
    generate space (generatorSettings root settings.generator sourceRoot outputDir) now
  | .verify snapshot json strict =>
    let verifier := { settings.verifier with requireSections := settings.verifier.requireSections || strict }
    verify space verifier (snapshotPath root snapshot verifier) json
  | .stats snapshot => stats space (snapshotPath root snapshot settings.verifier)

def treeAfter (space : Workspace) (invocation : Invocation) (now : String) : FileTree :=
  let root := rootPath space invocation.root
  match invocation.task with
  | .generate sourceRoot outputDir =>
    let settings := generatorSettings root (settings space root).generator sourceRoot outputDir
    (generating space.directory settings now).leaves space.tree
  | .verify .. | .stats .. => space.tree

def execute (space : Workspace) (invocation : Invocation) (now : String) : Outcome :=
  match run space invocation now with
  | .ok outcome => outcome
  | .error failure =>
    { exit := 1, errors := lines ["Error: " ++ failure.message], tree := treeAfter space invocation now }

end FrontendAtlas.Command

import FrontendAtlas.Contract.Report
import FrontendAtlas.Failure
import FrontendAtlas.Files.Tree
import FrontendAtlas.Settings.Basic

namespace FrontendAtlas.Project

open FrontendAtlas.Contract

def notTextReason : String := "stream did not contain valid UTF-8"

def faultReason : Json.Fault → String
  | .malformed => "not valid JSON"
  | .shape => "not a graph snapshot"

def loadSnapshot (space : Workspace) (path : String) : Except Failure Snapshot :=
  match space.read? path with
  | none => .error (.snapshotMissing path)
  | some content =>
    match content.text? with
    | none => .error (.snapshotInvalid path notTextReason)
    | some text => (Snapshot.ofText text).mapError fun fault => .snapshotInvalid path (faultReason fault)

def requireSections (path : String) (snapshot : Snapshot) : Except Failure Snapshot :=
  if snapshot.missing.isEmpty then .ok snapshot
  else .error (.snapshotInvalid path ("missing sections: " ++ String.intercalate ", " snapshot.missing))

def loadChecked (space : Workspace) (settings : VerifierSettings) (path : String) : Except Failure Snapshot := do
  let snapshot ← loadSnapshot space path
  if settings.requireSections then requireSections path snapshot else return snapshot

def verify (space : Workspace) (settings : VerifierSettings) (path : String) : Except Failure Report := do
  let snapshot ← loadChecked space settings path
  return .ofSnapshot snapshot settings.allowed

end FrontendAtlas.Project

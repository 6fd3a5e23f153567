import FrontendAtlas.Failure
import FrontendAtlas.Files.Tree
import FrontendAtlas.Settings.Basic
import FrontendAtlas.Toml.Document

namespace FrontendAtlas.Settings

def ofText? (text : String) : Option Settings := do
  (shape.decode (← Toml.document? text.toList)).toOption

def read (space : Workspace) (path : String) : Except Failure Settings :=
  match space.readText? path with
  | none => .error .access
  | some text => (ofText? text).elim (.error .settings) .ok

def load (space : Workspace) (path : String) : Settings :=
  (read space path).toOption.getD {}

end FrontendAtlas.Settings

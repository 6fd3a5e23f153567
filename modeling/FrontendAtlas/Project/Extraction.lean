import FrontendAtlas.Declaration.ApiFunction
import FrontendAtlas.Declaration.Component
import FrontendAtlas.Declaration.Hook
import FrontendAtlas.Declaration.TypeDeclaration
import FrontendAtlas.Failure
import FrontendAtlas.Graph.Basic
import FrontendAtlas.Ignore.Scan
import FrontendAtlas.Settings.Basic

/-! The nodes of a whole source tree.  Hooks need the names of the API functions and of all hooks,
components those of the hooks.  A file that holds no text is passed over; of nodes with the same name
the one of the first file counts. -/

namespace FrontendAtlas.Project

open FrontendAtlas.Ignore (SourceFile scan)

structure Source where
  path : String
  label : String
  text : List Char

def source? (settings : GeneratorSettings) (file : SourceFile) : Option Source :=
  file.content.text?.map fun text => ⟨file.path, Path.label settings.sourceRoot file.path, text.toList⟩

def mergeAll {α : Type} (found : List (Dict α)) : Dict α :=
  found.foldl Dict.mergeFirst ∅

def typeFiles? (space : Workspace) (settings : GeneratorSettings) : Option (List SourceFile) :=
  let path := settings.fullTypesPath
  match space.entry? path with
  | none => none
  | some .directory => some (scan space path ["ts"] true)
  | some (.file content) => some [⟨path, content⟩]

def isApiFile (settings : GeneratorSettings) (file : SourceFile) : Bool :=
  !settings.apiExcluded.contains ((Path.fileName? file.path).getD "") &&
    Path.parts file.path != Path.parts settings.fullTypesPath && !settings.ignores file.path

def isHookFile (settings : GeneratorSettings) (file : SourceFile) : Bool :=
  ((Path.fileName? file.path).any fun name => Text.startsWith "use".toList name.toList) &&
    !settings.ignores file.path

def typesOf (sources : List Source) : Dict TypeDeclaration :=
  mergeAll (sources.map fun source => Declaration.types source.text source.label)

def apisOf (sources : List Source) : Dict ApiFunction :=
  mergeAll (sources.map fun source => Declaration.apiFunctions source.text source.label)

def hookNamesOf (sources : List Source) : NameSet :=
  .ofList (sources.flatMap fun source => Declaration.hookNames source.text)

def hooksOf (apis : NameSet) (sources : List Source) : Dict Hook :=
  let names := hookNamesOf sources
  mergeAll (sources.map fun source => Declaration.hooks source.text source.label apis names)

def componentsOf (hooks : NameSet) (sources : List Source) : Dict Component :=
  Dict.ofListFirst (sources.filterMap fun source =>
    (Declaration.component? source.text source.path source.label hooks).map fun component =>
      (component.name, component))

def apiSources (space : Workspace) (settings : GeneratorSettings) : List Source :=
  ((scan space settings.fullApiDir ["ts"] false).filter (isApiFile settings)).filterMap (source? settings)

def hookSources (space : Workspace) (settings : GeneratorSettings) : List Source :=
  ((scan space settings.fullHooksDir ["ts", "tsx"] false).filter (isHookFile settings)).filterMap
    (source? settings)

def componentSources (space : Workspace) (settings : GeneratorSettings) : List Source :=
  ((scan space settings.fullComponentsDir settings.componentExtensions true).filter
    fun file => !settings.ignores file.path).filterMap (source? settings)

def nodes (space : Workspace) (settings : GeneratorSettings) : Except Failure Nodes :=
  match typeFiles? space settings with
  | none => .error (.missingTypes settings.fullTypesPath)
  | some files =>
    let types := typesOf (files.filterMap (source? settings))
    let apis := apisOf (apiSources space settings)
    let hooks := hooksOf (.ofList apis.keys) (hookSources space settings)
    let components := componentsOf (.ofList hooks.keys) (componentSources space settings)
    .ok ⟨types, apis, hooks, components⟩

def graph (space : Workspace) (settings : GeneratorSettings) (now : String) : Except Failure Graph :=
  (nodes space settings).map fun nodes => .ofNodes nodes now

end FrontendAtlas.Project

import FrontendAtlas.Json.Decode
import FrontendAtlas.Path

namespace FrontendAtlas

open FrontendAtlas.Json

/-- Where the sources of a front end are and where its graph goes.  All paths but the first two are
seen from the source root. -/
structure GeneratorSettings where
  sourceRoot : String := "src/web/src"
  outputDir : String := "tools/graph"
  typesPath : String := "services/api/types.ts"
  apiDir : String := "services/api"
  apiExcluded : List String := ["client.ts", "validators.ts", "index.ts", "types.ts"]
  hooksDir : String := "hooks"
  componentsDir : String := "components"
  componentExtensions : List String := ["tsx", "jsx"]
  ignoredEndings : List String := [".test", ".spec", ".stories"]
  deriving DecidableEq

structure VerifierSettings where
  baselinePath : String := "tools/graph/graph-baseline.json"
  allowed : List String := []
  requireSections : Bool := false
  deriving DecidableEq

structure Settings where
  generator : GeneratorSettings := {}
  verifier : VerifierSettings := {}
  deriving DecidableEq

namespace GeneratorSettings

def graphFile : String := "frontend-graph.json"

def fullTypesPath (settings : GeneratorSettings) : String :=
  Path.join settings.sourceRoot settings.typesPath

def fullApiDir (settings : GeneratorSettings) : String :=
  Path.join settings.sourceRoot settings.apiDir

def fullHooksDir (settings : GeneratorSettings) : String :=
  Path.join settings.sourceRoot settings.hooksDir

def fullComponentsDir (settings : GeneratorSettings) : String :=
  Path.join settings.sourceRoot settings.componentsDir

def outputPath (settings : GeneratorSettings) : String :=
  Path.join settings.outputDir graphFile

def ignores (settings : GeneratorSettings) (path : String) : Bool :=
  let stem := ((Path.fileStem? path).getD "").toList
  settings.ignoredEndings.any fun ending => Text.endsWith ending.toList stem

def json (settings : GeneratorSettings) : Value :=
  .object [
    ("source_root", .string settings.sourceRoot),
    ("output_dir", .string settings.outputDir),
    ("types_path", .string settings.typesPath),
    ("api_dir", .string settings.apiDir),
    ("api_excluded_files", .names settings.apiExcluded),
    ("hooks_dir", .string settings.hooksDir),
    ("components_dir", .string settings.componentsDir),
    ("component_extensions", .names settings.componentExtensions),
    ("ignored_suffixes", .names settings.ignoredEndings)]

def shape : Shape GeneratorSettings :=
  let usual : GeneratorSettings := {}
  GeneratorSettings.mk
    <$> .fieldOr usual.sourceRoot "source_root" Decode.text
    <*> .fieldOr usual.outputDir "output_dir" Decode.text
    <*> .fieldOr usual.typesPath "types_path" Decode.text
    <*> .fieldOr usual.apiDir "api_dir" Decode.text
    <*> .fieldOr usual.apiExcluded "api_excluded_files" (Decode.list Decode.text)
    <*> .fieldOr usual.hooksDir "hooks_dir" Decode.text
    <*> .fieldOr usual.componentsDir "components_dir" Decode.text
    <*> .fieldOr usual.componentExtensions "component_extensions" (Decode.list Decode.text)
    <*> .fieldOr usual.ignoredEndings "ignored_suffixes" (Decode.list Decode.text)

end GeneratorSettings

namespace VerifierSettings

def json (settings : VerifierSettings) : Value :=
  .object [
    ("baseline_path", .string settings.baselinePath),
    ("type_alignment_allowlist", .names settings.allowed),
    ("require_sections", .bool settings.requireSections)]

def shape : Shape VerifierSettings :=
  let usual : VerifierSettings := {}
  VerifierSettings.mk
    <$> .fieldOr usual.baselinePath "baseline_path" Decode.text
    <*> .fieldOr usual.allowed "type_alignment_allowlist" (Decode.list Decode.text)
    <*> .fieldOr usual.requireSections "require_sections" Decode.flag

end VerifierSettings

namespace Settings

def json (settings : Settings) : Value :=
  .object [("generator", settings.generator.json), ("verifier", settings.verifier.json)]

def shape : Shape Settings :=
  Settings.mk
    <$> .fieldOr {} "generator" GeneratorSettings.shape.decode
    <*> .fieldOr {} "verifier" VerifierSettings.shape.decode

def resolve (settings : Settings) (root : String) : Settings where
  generator := { settings.generator with
    sourceRoot := Path.join root settings.generator.sourceRoot
    outputDir := Path.join root settings.generator.outputDir }
  verifier := { settings.verifier with baselinePath := Path.join root settings.verifier.baselinePath }

def file (root : String) : String :=
  Path.join (Path.join root ".strata") "config.toml"

end Settings

end FrontendAtlas

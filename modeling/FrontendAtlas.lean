import FrontendAtlas.Contract.Report
import FrontendAtlas.Declaration.ApiFunction
import FrontendAtlas.Declaration.Component
import FrontendAtlas.Declaration.Hook
import FrontendAtlas.Declaration.TypeDeclaration
import FrontendAtlas.Failure
import FrontendAtlas.Ignore.Scan
import FrontendAtlas.Json.Decode
import FrontendAtlas.Main
import FrontendAtlas.Project.Extraction
import FrontendAtlas.Project.GraphFile
import FrontendAtlas.Project.Verification
import FrontendAtlas.Proofs.Bytes.ClosingOffset
import FrontendAtlas.Proofs.Bytes.Extraction
import FrontendAtlas.Proofs.Command.ExitCode
import FrontendAtlas.Proofs.Command.GenerateOutcome
import FrontendAtlas.Proofs.Command.GenerateTwice
import FrontendAtlas.Proofs.Contract.AlignmentDirections
import FrontendAtlas.Proofs.Contract.Breach
import FrontendAtlas.Proofs.Contract.NameMatching
import FrontendAtlas.Proofs.Contract.NumericSpelling
import FrontendAtlas.Proofs.Contract.ReportText
import FrontendAtlas.Proofs.Declaration.ApiExtraction
import FrontendAtlas.Proofs.Declaration.ApiText
import FrontendAtlas.Proofs.Declaration.CommentImmunity
import FrontendAtlas.Proofs.Declaration.HookExtraction
import FrontendAtlas.Proofs.Declaration.HookText
import FrontendAtlas.Proofs.Declaration.ImportedHelper
import FrontendAtlas.Proofs.Declaration.InterfaceExtraction
import FrontendAtlas.Proofs.Declaration.InterfaceText
import FrontendAtlas.Proofs.Declaration.LiteralImmunity
import FrontendAtlas.Proofs.Declaration.LiteralProperties
import FrontendAtlas.Proofs.Declaration.LiteralRequests
import FrontendAtlas.Proofs.Declaration.PatternRest
import FrontendAtlas.Proofs.Declaration.QuoteStyle
import FrontendAtlas.Proofs.Declaration.TypeText
import FrontendAtlas.Proofs.Dict
import FrontendAtlas.Proofs.Graph.EdgeInference
import FrontendAtlas.Proofs.Graph.FileText
import FrontendAtlas.Proofs.Graph.NodeJson
import FrontendAtlas.Proofs.Json.Record
import FrontendAtlas.Proofs.Json.Shape
import FrontendAtlas.Proofs.Json.Text
import FrontendAtlas.Proofs.Project.BindingDependencies
import FrontendAtlas.Proofs.Project.FirstDefinition
import FrontendAtlas.Proofs.Project.ReferenceClosure
import FrontendAtlas.Proofs.Project.RequiredSections
import FrontendAtlas.Proofs.Project.SnapshotLoading
import FrontendAtlas.Proofs.Project.UnreadableFile
import FrontendAtlas.Proofs.Project.WellFormedNodes
import FrontendAtlas.Proofs.Source.Balance
import FrontendAtlas.Proofs.Source.CommentPass
import FrontendAtlas.Proofs.Source.ExportText
import FrontendAtlas.Proofs.Source.IdentifierRun
import FrontendAtlas.Proofs.Source.LiteralContents
import FrontendAtlas.Proofs.Source.Occurrence
import FrontendAtlas.Proofs.Source.Rest
import FrontendAtlas.Proofs.Source.Scan
import FrontendAtlas.Proofs.Source.SectionGrammar
import FrontendAtlas.Proofs.Source.SettledText
import FrontendAtlas.Proofs.Source.Stretch
import FrontendAtlas.Proofs.Source.TemplateIntegrity
import FrontendAtlas.Proofs.Source.TemplateRoute
import FrontendAtlas.Proofs.Text.Case
import FrontendAtlas.Proofs.Text.Search
import FrontendAtlas.Settings.Basic
import FrontendAtlas.Settings.File

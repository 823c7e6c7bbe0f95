import ContractTemplates.Base64
import ContractTemplates.Bytes
import ContractTemplates.Calendar.Date
import ContractTemplates.Calendar.DateTime
import ContractTemplates.Compile.Compiler
import ContractTemplates.Compile.Job
import ContractTemplates.Compile.Supervision
import ContractTemplates.DataUrl
import ContractTemplates.Datum
import ContractTemplates.Entries
import ContractTemplates.Files
import ContractTemplates.Frontmatter
import ContractTemplates.Host.Basic
import ContractTemplates.Host.Execution
import ContractTemplates.Host.Program.Basic
import ContractTemplates.Host.Program.Pattern
import ContractTemplates.Host.Program.Printing
import ContractTemplates.Host.Program.Small
import ContractTemplates.Host.Program.Stream
import ContractTemplates.Host.Program.Tree
import ContractTemplates.Host.Shell.Command
import ContractTemplates.Host.Shell.Evaluation
import ContractTemplates.Host.Shell.Expansion
import ContractTemplates.Host.Shell.Grammar
import ContractTemplates.Host.Shell.State
import ContractTemplates.Host.Shell.Token
import ContractTemplates.Json.Basic
import ContractTemplates.Json.Reader
import ContractTemplates.Json.Writer
import ContractTemplates.Number.Binary64
import ContractTemplates.Number.Numeral
import ContractTemplates.Number.Shortest
import ContractTemplates.Path
import ContractTemplates.Placeholder
import ContractTemplates.Proofs.Calendar.DayText
import ContractTemplates.Proofs.Compile.CallPaths
import ContractTemplates.Proofs.Compile.ChildEnd
import ContractTemplates.Proofs.Compile.ChildReport
import ContractTemplates.Proofs.Compile.ChildWaited
import ContractTemplates.Proofs.Compile.Crew
import ContractTemplates.Proofs.Compile.JobCourse
import ContractTemplates.Proofs.Compile.JobFiles
import ContractTemplates.Proofs.Compile.JobOutcome
import ContractTemplates.Proofs.Compile.JobStep
import ContractTemplates.Proofs.Compile.JobTurns
import ContractTemplates.Proofs.Compile.JobView
import ContractTemplates.Proofs.Compile.Leftovers
import ContractTemplates.Proofs.DataUrl
import ContractTemplates.Proofs.Entries
import ContractTemplates.Proofs.Files.Way
import ContractTemplates.Proofs.Frontmatter.ClosingLine
import ContractTemplates.Proofs.Frontmatter.Enclosure
import ContractTemplates.Proofs.Frontmatter.Layout
import ContractTemplates.Proofs.Json.Numeral
import ContractTemplates.Proofs.Json.Quoted
import ContractTemplates.Proofs.Json.RoundTrip
import ContractTemplates.Proofs.Number.Plain
import ContractTemplates.Proofs.Number.ReadBack
import ContractTemplates.Proofs.Number.Rounding
import ContractTemplates.Proofs.Number.Shortest
import ContractTemplates.Proofs.Number.Spelling
import ContractTemplates.Proofs.Path.Resolution
import ContractTemplates.Proofs.Path.Spelling
import ContractTemplates.Proofs.Placeholder.Cut
import ContractTemplates.Proofs.Placeholder.Filling
import ContractTemplates.Proofs.Placeholder.Occurrence
import ContractTemplates.Proofs.Placeholder.SecondPass
import ContractTemplates.Proofs.Placeholder.Stages
import ContractTemplates.Proofs.Service.CompileOutcome
import ContractTemplates.Proofs.Service.CompileRoute
import ContractTemplates.Proofs.Service.DetailRoute
import ContractTemplates.Proofs.Service.HiddenTemplates
import ContractTemplates.Proofs.Service.PriceRange
import ContractTemplates.Proofs.Service.SentResponse
import ContractTemplates.Proofs.Service.SpelledPath
import ContractTemplates.Proofs.Service.StoppedSync
import ContractTemplates.Proofs.Service.TemplateRecord
import ContractTemplates.Proofs.Template.Advance
import ContractTemplates.Proofs.Template.CatalogueRows
import ContractTemplates.Proofs.Template.Listing
import ContractTemplates.Proofs.Template.Revision
import ContractTemplates.Proofs.Template.Schema
import ContractTemplates.Proofs.Template.SchemaReaders
import ContractTemplates.Proofs.Template.SchemasReadable
import ContractTemplates.Proofs.Template.SearchHits
import ContractTemplates.Proofs.Template.SearchPattern
import ContractTemplates.Proofs.Template.SearchWords
import ContractTemplates.Proofs.Template.Session
import ContractTemplates.Proofs.Template.SessionSync
import ContractTemplates.Proofs.Template.Standing
import ContractTemplates.Proofs.Template.StoreRows
import ContractTemplates.Proofs.Template.SyncAgreement
import ContractTemplates.Proofs.Template.SyncFits
import ContractTemplates.Proofs.Template.SyncIdempotence
import ContractTemplates.Proofs.Template.SyncIsolation
import ContractTemplates.Proofs.Template.SyncOrder
import ContractTemplates.Proofs.Template.SyncStep
import ContractTemplates.Proofs.Template.SyncSuccess
import ContractTemplates.Proofs.Template.VersionHistory
import ContractTemplates.Proofs.Template.VersionIds
import ContractTemplates.Proofs.Text.Blank
import ContractTemplates.Proofs.Text.Lowercase
import ContractTemplates.Proofs.Text.Order
import ContractTemplates.Proofs.Text.Prefix
import ContractTemplates.Proofs.Text.Raw
import ContractTemplates.Proofs.Text.Split
import ContractTemplates.Proofs.Text.Utf8
import ContractTemplates.Proofs.Validation.Blame
import ContractTemplates.Proofs.Validation.Checked
import ContractTemplates.Proofs.Variable.Coercion
import ContractTemplates.Proofs.Variable.DateField
import ContractTemplates.Proofs.Variable.DeclaredName
import ContractTemplates.Proofs.Variable.Definition
import ContractTemplates.Proofs.Variable.Form
import ContractTemplates.Proofs.Variable.FormDefaults
import ContractTemplates.Proofs.Variable.FormKinds
import ContractTemplates.Proofs.Variable.FormMessages
import ContractTemplates.Proofs.Variable.FormOrder
import ContractTemplates.Proofs.Variable.FormReport
import ContractTemplates.Proofs.Variable.FormStrictness
import ContractTemplates.Proofs.Variable.NumberField
import ContractTemplates.Proofs.Variable.PrintedText
import ContractTemplates.Proofs.Variable.Rendering
import ContractTemplates.Proofs.Variable.Resubmission
import ContractTemplates.Service.Basic
import ContractTemplates.Service.CompileRequest
import ContractTemplates.Service.Response
import ContractTemplates.Service.Route
import ContractTemplates.Service.Target
import ContractTemplates.Settings.Basic
import ContractTemplates.Settings.EnvironmentFile
import ContractTemplates.Template.Catalogue
import ContractTemplates.Template.Document
import ContractTemplates.Template.Manifest
import ContractTemplates.Template.Record
import ContractTemplates.Template.Schema
import ContractTemplates.Template.SourceFile
import ContractTemplates.Template.Store
import ContractTemplates.Template.Sync
import ContractTemplates.Text.Basic
import ContractTemplates.Text.Blank
import ContractTemplates.Text.Digit
import ContractTemplates.Text.Lowercase
import ContractTemplates.Text.Lowercase.Table
import ContractTemplates.Text.Raw
import ContractTemplates.Text.Utf8
import ContractTemplates.Validation.Issue
import ContractTemplates.Validation.Moment
import ContractTemplates.Validation.Record
import ContractTemplates.Validation.Scalar
import ContractTemplates.Variable.Coercion
import ContractTemplates.Variable.Definition
import ContractTemplates.Variable.Form
import ContractTemplates.Variable.Value
import ContractTemplates.Yaml.Cursor
import ContractTemplates.Yaml.Error
import ContractTemplates.Yaml.Node
import ContractTemplates.Yaml.Property
import ContractTemplates.Yaml.Scalar.Block
import ContractTemplates.Yaml.Scalar.Plain
import ContractTemplates.Yaml.Scalar.Quoted
import ContractTemplates.Yaml.Tag
import ContractTemplates.Yaml.Timestamp
import ContractTemplates.Yaml.Token
import ContractTemplates.Yaml.Value

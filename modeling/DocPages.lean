import DocPages.Build
import DocPages.Bytes
import DocPages.Command.Flag
import DocPages.Command.Help
import DocPages.Command.Run
import DocPages.Comment
import DocPages.Config
import DocPages.Config.File
import DocPages.Config.Validation
import DocPages.Declaration.Line
import DocPages.Declaration.Signature
import DocPages.Diff.Match
import DocPages.Diff.Unified
import DocPages.Digest.Pages
import DocPages.Digest.Sha256
import DocPages.Entity
import DocPages.FileSystem
import DocPages.Generator
import DocPages.Html.Builder
import DocPages.Html.Construction
import DocPages.Html.Document
import DocPages.Html.Escape
import DocPages.Html.Reference
import DocPages.Html.Token
import DocPages.Http.Address
import DocPages.Http.Message
import DocPages.Json.Text
import DocPages.Log
import DocPages.Log.Output
import DocPages.Main
import DocPages.Markdown.Autolink
import DocPages.Markdown.Block
import DocPages.Markdown.Block.Parse
import DocPages.Markdown.Characters
import DocPages.Markdown.Definition
import DocPages.Markdown.Inline
import DocPages.Markdown.Inline.Parse
import DocPages.Markdown.Render
import DocPages.Markdown.Table
import DocPages.Markdown.Tag
import DocPages.Page.Links
import DocPages.Page.Markup
import DocPages.Page.Site
import DocPages.Page.Template
import DocPages.Page.TemplateFiles
import DocPages.Path
import DocPages.Proofs.Accounting
import DocPages.Proofs.ArgumentLists
import DocPages.Proofs.ArgumentText
import DocPages.Proofs.Attribution
import DocPages.Proofs.BuildRecords
import DocPages.Proofs.ByteText
import DocPages.Proofs.CharacterReferences
import DocPages.Proofs.CleanPaths
import DocPages.Proofs.ConstructorKeys
import DocPages.Proofs.ConstructorLines
import DocPages.Proofs.ConstructorMerging
import DocPages.Proofs.DeclarationKeys
import DocPages.Proofs.DeclarationRoundTrip
import DocPages.Proofs.Decoration
import DocPages.Proofs.DefaultValues
import DocPages.Proofs.DigestStreams
import DocPages.Proofs.DirectoryMaking
import DocPages.Proofs.FileEdits
import DocPages.Proofs.FilePlaces
import DocPages.Proofs.FileProcedures
import DocPages.Proofs.Independence
import DocPages.Proofs.JsonReading
import DocPages.Proofs.Labels
import DocPages.Proofs.LastGoodSite
import DocPages.Proofs.LineEndings
import DocPages.Proofs.LinePrecedence
import DocPages.Proofs.LineShapes
import DocPages.Proofs.MalformedDeclarations
import DocPages.Proofs.Marks
import DocPages.Proofs.MarkupReading
import DocPages.Proofs.MarkupShapes
import DocPages.Proofs.MethodLines
import DocPages.Proofs.Navigation
import DocPages.Proofs.NavigationItems
import DocPages.Proofs.OutsideBlocks
import DocPages.Proofs.OverlappingRebuilds
import DocPages.Proofs.Ownership
import DocPages.Proofs.PageLinks
import DocPages.Proofs.PagePaths
import DocPages.Proofs.PageTasks
import DocPages.Proofs.Profiles
import DocPages.Proofs.PublishedFiles
import DocPages.Proofs.Readings
import DocPages.Proofs.Regeneration
import DocPages.Proofs.RunOrder
import DocPages.Proofs.Runs
import DocPages.Proofs.ScriptFiles
import DocPages.Proofs.ServerReports
import DocPages.Proofs.SessionRun
import DocPages.Proofs.TemplateFilling
import DocPages.Proofs.TreeConsistency
import DocPages.Proofs.TreeViews
import DocPages.Proofs.Trimming
import DocPages.Proofs.UpToDate
import DocPages.Proofs.WellFormedFiles
import DocPages.Publish
import DocPages.Server
import DocPages.Session
import DocPages.Text.Blank
import DocPages.Text.CaseFold
import DocPages.Text.CommaSeparated
import DocPages.Text.Numeral
import DocPages.Text.Printable
import DocPages.Text.Punctuation
import DocPages.Text.Quoted
import DocPages.Text.Utf8
import DocPages.Tree
import DocPages.Url
import DocPages.Yaml.Node
import DocPages.Yaml.Resolve
import DocPages.Yaml.Scalar
import DocPages.Yaml.Source
import DocPages.Yaml.Token

import ModuleBundler.Asset
import ModuleBundler.Association
import ModuleBundler.Build
import ModuleBundler.Cause
import ModuleBundler.CommandLine.Basic
import ModuleBundler.CommandLine.Run
import ModuleBundler.Decimal.Binary
import ModuleBundler.Decimal.Shortest
import ModuleBundler.Emission
import ModuleBundler.Failure
import ModuleBundler.Hook.Argument
import ModuleBundler.Hook.Failure
import ModuleBundler.Hook.Registry
import ModuleBundler.Hook.Session
import ModuleBundler.Hook.Task
import ModuleBundler.ImportGraph
import ModuleBundler.Inspection.Basic
import ModuleBundler.Inspection.Build
import ModuleBundler.Journal
import ModuleBundler.Json.Basic
import ModuleBundler.Json.Printer
import ModuleBundler.Json.Reader
import ModuleBundler.Linking.Analysis
import ModuleBundler.Linking.Group
import ModuleBundler.Linking.Insertion
import ModuleBundler.Linking.Member
import ModuleBundler.Loading.Loader
import ModuleBundler.Loading.Rule
import ModuleBundler.Main
import ModuleBundler.Path.Basic
import ModuleBundler.Path.Canonical
import ModuleBundler.Pattern.Basic
import ModuleBundler.Pattern.CharSet
import ModuleBundler.Pattern.PathPattern
import ModuleBundler.Pattern.PropertyName
import ModuleBundler.Pattern.Reading
import ModuleBundler.Plugin
import ModuleBundler.Proofs.Asset
import ModuleBundler.Proofs.Asset.History
import ModuleBundler.Proofs.Asset.Mapping
import ModuleBundler.Proofs.Association
import ModuleBundler.Proofs.Attempt
import ModuleBundler.Proofs.Build
import ModuleBundler.Proofs.Build.Destination
import ModuleBundler.Proofs.Build.Locality
import ModuleBundler.Proofs.Build.StandardBundle
import ModuleBundler.Proofs.CommandLine.Precedence
import ModuleBundler.Proofs.Decimal.Numeral
import ModuleBundler.Proofs.Emission
import ModuleBundler.Proofs.Except
import ModuleBundler.Proofs.Graph.Blame
import ModuleBundler.Proofs.Graph.BreadthFirst
import ModuleBundler.Proofs.Graph.ChainCount
import ModuleBundler.Proofs.Graph.Chains
import ModuleBundler.Proofs.Graph.Coherence
import ModuleBundler.Proofs.Graph.Locality
import ModuleBundler.Proofs.Graph.Numbers
import ModuleBundler.Proofs.Graph.Origins
import ModuleBundler.Proofs.Graph.Reachability
import ModuleBundler.Proofs.Graph.Reading
import ModuleBundler.Proofs.Graph.Repetition
import ModuleBundler.Proofs.Graph.Run
import ModuleBundler.Proofs.Graph.SimpleChains
import ModuleBundler.Proofs.Graph.Termination
import ModuleBundler.Proofs.Graph.Traversal
import ModuleBundler.Proofs.Graph.WellFormed
import ModuleBundler.Proofs.Hook.Callback
import ModuleBundler.Proofs.Hook.Discipline
import ModuleBundler.Proofs.Hook.FailFast
import ModuleBundler.Proofs.Hook.History
import ModuleBundler.Proofs.Hook.Orderly
import ModuleBundler.Proofs.Hook.Redirection
import ModuleBundler.Proofs.Hook.Refusal
import ModuleBundler.Proofs.Hook.Registry
import ModuleBundler.Proofs.Hook.Schedule
import ModuleBundler.Proofs.Hook.Session
import ModuleBundler.Proofs.Hook.Subscription
import ModuleBundler.Proofs.Hook.Succession
import ModuleBundler.Proofs.Journal
import ModuleBundler.Proofs.Json.Line
import ModuleBundler.Proofs.Json.Literal
import ModuleBundler.Proofs.Json.Reading
import ModuleBundler.Proofs.Linking.Alone
import ModuleBundler.Proofs.Linking.Analysis
import ModuleBundler.Proofs.Linking.Apart
import ModuleBundler.Proofs.Linking.BindableNames
import ModuleBundler.Proofs.Linking.Body
import ModuleBundler.Proofs.Linking.Boundaries
import ModuleBundler.Proofs.Linking.DataModule
import ModuleBundler.Proofs.Linking.ExportWrites
import ModuleBundler.Proofs.Linking.Exports
import ModuleBundler.Proofs.Linking.Factory
import ModuleBundler.Proofs.Linking.Hygiene
import ModuleBundler.Proofs.Linking.InsertedStatements
import ModuleBundler.Proofs.Linking.Layout
import ModuleBundler.Proofs.Linking.Requires
import ModuleBundler.Proofs.Linking.Shadowing
import ModuleBundler.Proofs.Linking.Splicing
import ModuleBundler.Proofs.Linking.Standing
import ModuleBundler.Proofs.Linking.Transcript
import ModuleBundler.Proofs.Linking.Waiting
import ModuleBundler.Proofs.Linking.WrittenNames
import ModuleBundler.Proofs.Loading.Chain
import ModuleBundler.Proofs.Path.Canonical
import ModuleBundler.Proofs.Path.Components
import ModuleBundler.Proofs.Path.InPlace
import ModuleBundler.Proofs.Path.Join
import ModuleBundler.Proofs.Path.Parent
import ModuleBundler.Proofs.Path.Resolution
import ModuleBundler.Proofs.Program
import ModuleBundler.Proofs.Rendering.ModuleData
import ModuleBundler.Proofs.Rendering.ModuleTable
import ModuleBundler.Proofs.Rendering.ObjectLiteral
import ModuleBundler.Proofs.Rendering.StandardBundle
import ModuleBundler.Proofs.Rendering.Template
import ModuleBundler.Proofs.Script.AwaitFree.Expression
import ModuleBundler.Proofs.Script.AwaitFree.Statement
import ModuleBundler.Proofs.Script.AwaitFree.Tree
import ModuleBundler.Proofs.Script.Blanks
import ModuleBundler.Proofs.Script.BoundNames
import ModuleBundler.Proofs.Script.Cursors
import ModuleBundler.Proofs.Script.Expressions
import ModuleBundler.Proofs.Script.Extend.Brace
import ModuleBundler.Proofs.Script.Extend.Escape
import ModuleBundler.Proofs.Script.Extend.Expression
import ModuleBundler.Proofs.Script.Extend.Function
import ModuleBundler.Proofs.Script.Extend.Literal
import ModuleBundler.Proofs.Script.Extend.Needs
import ModuleBundler.Proofs.Script.Extend.Parse
import ModuleBundler.Proofs.Script.Extend.Seam
import ModuleBundler.Proofs.Script.Extend.Statement
import ModuleBundler.Proofs.Script.Extend.Token
import ModuleBundler.Proofs.Script.Fails
import ModuleBundler.Proofs.Script.Links
import ModuleBundler.Proofs.Script.Listings
import ModuleBundler.Proofs.Script.Mentions
import ModuleBundler.Proofs.Script.Names
import ModuleBundler.Proofs.Script.Postcondition
import ModuleBundler.Proofs.Script.Progress
import ModuleBundler.Proofs.Script.Provides
import ModuleBundler.Proofs.Script.Reads
import ModuleBundler.Proofs.Script.Rename.Basic
import ModuleBundler.Proofs.Script.Rename.Expression
import ModuleBundler.Proofs.Script.Rename.Statement
import ModuleBundler.Proofs.Script.Suffix
import ModuleBundler.Proofs.Script.Tokens
import ModuleBundler.Proofs.Settings.Spelling
import ModuleBundler.Proofs.Storage.Capacity
import ModuleBundler.Proofs.Storage.FileTree
import ModuleBundler.Proofs.Text.Edit
import ModuleBundler.Proofs.Text.Quoted
import ModuleBundler.Rendering.ModuleTable
import ModuleBundler.Rendering.Template
import ModuleBundler.Script.Cursor
import ModuleBundler.Script.Grammar.Assignment
import ModuleBundler.Script.Grammar.Binding
import ModuleBundler.Script.Grammar.Class
import ModuleBundler.Script.Grammar.Declaration
import ModuleBundler.Script.Grammar.Function
import ModuleBundler.Script.Grammar.Loop
import ModuleBundler.Script.Grammar.ModuleItem
import ModuleBundler.Script.Grammar.Object
import ModuleBundler.Script.Grammar.Operand
import ModuleBundler.Script.Grammar.Operation
import ModuleBundler.Script.Grammar.Postfix
import ModuleBundler.Script.Grammar.Statement
import ModuleBundler.Script.Grammar.Target
import ModuleBundler.Script.Grammar.Token
import ModuleBundler.Script.Item
import ModuleBundler.Script.Node
import ModuleBundler.Script.Parser
import ModuleBundler.Script.Program
import ModuleBundler.Script.Scan
import ModuleBundler.Script.Scan.Escape
import ModuleBundler.Script.Scan.Name
import ModuleBundler.Script.Scan.Number
import ModuleBundler.Script.Scan.Quoted
import ModuleBundler.Script.Scan.Trivia
import ModuleBundler.Script.Token
import ModuleBundler.Settings.Basic
import ModuleBundler.Settings.Build
import ModuleBundler.Storage.Basic
import ModuleBundler.Storage.Drive
import ModuleBundler.Storage.Failure
import ModuleBundler.Storage.FileTree
import ModuleBundler.Storage.Observations
import ModuleBundler.Text.CaseFold
import ModuleBundler.Text.Category
import ModuleBundler.Text.CharClass
import ModuleBundler.Text.CodePoint
import ModuleBundler.Text.Edit
import ModuleBundler.Text.Inspected
import ModuleBundler.Text.Placeholder
import ModuleBundler.Text.Quoted
import ModuleBundler.Text.WritingSystem
import ModuleBundler.Toml.Basic
import ModuleBundler.Toml.Quoted
import ModuleBundler.Toml.Reader
import ModuleBundler.Toml.Scalar

import Stencil.Calendar
import Stencil.Calendar.Pattern
import Stencil.CommandLine.Command
import Stencil.CommandLine.Session
import Stencil.Decimal.Binary
import Stencil.Decimal.Notation
import Stencil.Decimal.Reader
import Stencil.Dialog.Asker
import Stencil.Dialog.Constant
import Stencil.Dialog.Emoji
import Stencil.Dialog.Interview
import Stencil.Dialog.Markup
import Stencil.Dialog.Replay
import Stencil.Dialog.Terminal
import Stencil.EnvFile
import Stencil.Fault
import Stencil.Files.Disk
import Stencil.Helper.Call
import Stencil.Helper.Script
import Stencil.Json.Access
import Stencil.Json.Basic
import Stencil.Json.Reader
import Stencil.Json.Writer
import Stencil.Log
import Stencil.Naming
import Stencil.Naming.Rules
import Stencil.Naming.Slug
import Stencil.OrderedMap
import Stencil.Path
import Stencil.Profile.Basic
import Stencil.Profile.Checked
import Stencil.Profile.Directives
import Stencil.Profile.Document
import Stencil.Profile.File
import Stencil.Prompt
import Stencil.Proofs.Action
import Stencil.Proofs.Decimal.Reader
import Stencil.Proofs.Dialog.Choices
import Stencil.Proofs.Dialog.Course
import Stencil.Proofs.Dialog.Drawing
import Stencil.Proofs.Dialog.Interview
import Stencil.Proofs.Dialog.Items
import Stencil.Proofs.Dialog.Labels
import Stencil.Proofs.Dialog.Markup
import Stencil.Proofs.Dialog.Progress
import Stencil.Proofs.Dialog.Rounds
import Stencil.Proofs.Dialog.Selections
import Stencil.Proofs.Dialog.Transcript
import Stencil.Proofs.Dialog.Unmet
import Stencil.Proofs.Dialog.Widgets
import Stencil.Proofs.EnvFile
import Stencil.Proofs.Files.Alike
import Stencil.Proofs.Files.Climbing
import Stencil.Proofs.Files.Disk
import Stencil.Proofs.Files.Effect
import Stencil.Proofs.Helper.Concatenation
import Stencil.Proofs.Json.Reader
import Stencil.Proofs.Naming.Conventions
import Stencil.Proofs.Naming.Words
import Stencil.Proofs.OrderedMap
import Stencil.Proofs.Profile.Document
import Stencil.Proofs.Profile.File
import Stencil.Proofs.Profile.Options
import Stencil.Proofs.Profile.Reading
import Stencil.Proofs.Registry.Calls
import Stencil.Proofs.Registry.File
import Stencil.Proofs.Registry.Loading
import Stencil.Proofs.Registry.Names
import Stencil.Proofs.Registry.Shared
import Stencil.Proofs.Registry.Unsaved
import Stencil.Proofs.Source.Columns
import Stencil.Proofs.Source.ForeignKeys
import Stencil.Proofs.Source.Indexes
import Stencil.Proofs.Source.Recorded
import Stencil.Proofs.Source.Steady
import Stencil.Proofs.Source.Switching
import Stencil.Proofs.Target.Files
import Stencil.Proofs.Target.Formatter
import Stencil.Proofs.Target.Generation
import Stencil.Proofs.Target.Inside
import Stencil.Proofs.Task.Answers
import Stencil.Proofs.Task.Call
import Stencil.Proofs.Task.Closed
import Stencil.Proofs.Task.Context
import Stencil.Proofs.Task.Freshness
import Stencil.Proofs.Task.Order
import Stencil.Proofs.Task.Preset
import Stencil.Proofs.Task.Prompts
import Stencil.Proofs.Task.Queue
import Stencil.Proofs.Task.Rejection
import Stencil.Proofs.Task.Required
import Stencil.Proofs.Task.SourceName
import Stencil.Proofs.Task.Start
import Stencil.Proofs.Task.Waiting
import Stencil.Proofs.Task.Ways
import Stencil.Proofs.Template.Engine
import Stencil.Proofs.Text.Pieces
import Stencil.Proofs.Value.Json
import Stencil.Proofs.Yaml.Writer
import Stencil.Registry.Basic
import Stencil.Registry.Change
import Stencil.Schema.Basic
import Stencil.Shell.Arithmetic
import Stencil.Shell.Builtin.Basic
import Stencil.Shell.Builtin.Condition
import Stencil.Shell.Builtin.Name
import Stencil.Shell.Builtin.Print
import Stencil.Shell.Builtin.Process
import Stencil.Shell.Builtin.Variable
import Stencil.Shell.Child
import Stencil.Shell.Expansion
import Stencil.Shell.Format
import Stencil.Shell.Glob
import Stencil.Shell.Lookup
import Stencil.Shell.Program.Basic
import Stencil.Shell.Program.Calculate
import Stencil.Shell.Program.Edit
import Stencil.Shell.Program.Edit.Script
import Stencil.Shell.Program.Field
import Stencil.Shell.Program.File
import Stencil.Shell.Program.Find
import Stencil.Shell.Program.Launch
import Stencil.Shell.Program.Line
import Stencil.Shell.Program.List
import Stencil.Shell.Program.Match
import Stencil.Shell.Program.Output
import Stencil.Shell.Program.Portion
import Stencil.Shell.Program.Replace
import Stencil.Shell.Program.Sort
import Stencil.Shell.Raw
import Stencil.Shell.Redirection
import Stencil.Shell.Regular
import Stencil.Shell.Regular.Reader
import Stencil.Shell.Run
import Stencil.Shell.Script
import Stencil.Shell.Session
import Stencil.Shell.Stream
import Stencil.Shell.Syntax
import Stencil.Shell.Token
import Stencil.Source.Basic
import Stencil.Source.Dsn
import Stencil.Source.Memory
import Stencil.Source.Reflection
import Stencil.Source.Server
import Stencil.Target.Generator
import Stencil.Task.Answer
import Stencil.Task.Basic
import Stencil.Task.Context
import Stencil.Task.Preset
import Stencil.Task.Start
import Stencil.Template.Check
import Stencil.Template.Collection
import Stencil.Template.Content
import Stencil.Template.Engine
import Stencil.Template.Evaluator
import Stencil.Template.Expression
import Stencil.Template.Filter
import Stencil.Template.Filter.Basic
import Stencil.Template.Fold
import Stencil.Template.Function
import Stencil.Template.Limits
import Stencil.Template.Loop
import Stencil.Template.Names
import Stencil.Template.Parser
import Stencil.Template.Statement
import Stencil.Template.Store
import Stencil.Template.Stream
import Stencil.Template.Syntax
import Stencil.Template.Test
import Stencil.Template.Token
import Stencil.Text.Case
import Stencil.Text.CaseTable
import Stencil.Text.CharacterName
import Stencil.Text.Decomposition
import Stencil.Text.Encoding
import Stencil.Text.Identifier
import Stencil.Text.Letters
import Stencil.Text.Pieces
import Stencil.Text.Quoted
import Stencil.Value.Arithmetic
import Stencil.Value.Attribute
import Stencil.Value.Basic
import Stencil.Value.Compare
import Stencil.Value.Conversion
import Stencil.Value.Field
import Stencil.Value.Item
import Stencil.Value.Json
import Stencil.Value.Layout
import Stencil.Value.Method
import Stencil.Value.Text
import Stencil.Value.TextMethod
import Stencil.Workspace
import Stencil.Yaml.Cursor
import Stencil.Yaml.Load
import Stencil.Yaml.Node
import Stencil.Yaml.Scalar
import Stencil.Yaml.Stream
import Stencil.Yaml.Token
import Stencil.Yaml.Writer

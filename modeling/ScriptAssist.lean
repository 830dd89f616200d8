import ScriptAssist.Command
import ScriptAssist.Command.Run
import ScriptAssist.Completion.BuiltIn
import ScriptAssist.Completion.Provider
import ScriptAssist.Completion.Table
import ScriptAssist.Document
import ScriptAssist.Engine
import ScriptAssist.FileTree
import ScriptAssist.Log
import ScriptAssist.Main
import ScriptAssist.Pairs
import ScriptAssist.Path
import ScriptAssist.Pattern
import ScriptAssist.Pattern.Expression
import ScriptAssist.Pattern.Matcher
import ScriptAssist.Pattern.Reader
import ScriptAssist.Position
import ScriptAssist.Proofs.Command.Batch
import ScriptAssist.Proofs.Command.Checking
import ScriptAssist.Proofs.Command.Serving
import ScriptAssist.Proofs.Completion.Completing
import ScriptAssist.Proofs.Completion.Consistency
import ScriptAssist.Proofs.Completion.Refusal
import ScriptAssist.Proofs.Completion.Resolving
import ScriptAssist.Proofs.Document
import ScriptAssist.Proofs.Engine.Dropping
import ScriptAssist.Proofs.Engine.Findings
import ScriptAssist.Proofs.Log
import ScriptAssist.Proofs.Pattern.Ends
import ScriptAssist.Proofs.Pattern.Scan
import ScriptAssist.Proofs.Position
import ScriptAssist.Proofs.Position.Counting
import ScriptAssist.Proofs.Position.Locality
import ScriptAssist.Proofs.Position.Prefix
import ScriptAssist.Proofs.Rule.Breaks
import ScriptAssist.Proofs.Rule.Neutral
import ScriptAssist.Proofs.Rule.OnePass
import ScriptAssist.Proofs.Rule.Shape
import ScriptAssist.Proofs.Server.Editing
import ScriptAssist.Proofs.Server.Isolation
import ScriptAssist.Proofs.Server.Logging
import ScriptAssist.Proofs.Server.Resolving
import ScriptAssist.Proofs.Server.View
import ScriptAssist.Proofs.Settings
import ScriptAssist.Proofs.Template.Fault
import ScriptAssist.Proofs.Template.Grammar
import ScriptAssist.Proofs.Template.Joining
import ScriptAssist.Proofs.Template.Preview
import ScriptAssist.Proofs.Template.Progress
import ScriptAssist.Proofs.Template.Reading
import ScriptAssist.Proofs.Template.RoundTrip
import ScriptAssist.Proofs.Template.Viable
import ScriptAssist.Proofs.Text.Breaks
import ScriptAssist.Proofs.Text.Digit
import ScriptAssist.Proofs.Text.Line
import ScriptAssist.Proofs.Text.Partition
import ScriptAssist.Proofs.Text.Utf8
import ScriptAssist.Rule
import ScriptAssist.Server
import ScriptAssist.Session
import ScriptAssist.Settings
import ScriptAssist.Template
import ScriptAssist.Template.Reader
import ScriptAssist.Text.Case
import ScriptAssist.Text.Digit
import ScriptAssist.Text.Line
import ScriptAssist.Text.Number
import ScriptAssist.Text.Quoted
import ScriptAssist.Text.Units
import ScriptAssist.Text.Utf8
import ScriptAssist.Toml
import ScriptAssist.Toml.Reader
import ScriptAssist.Toml.Scalar
import ScriptAssist.Value
import ScriptAssist.Value.Indented

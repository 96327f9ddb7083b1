import TitleScript.Text.Alphanumeric
import TitleScript.Text.Blank
import TitleScript.Text.Case.Class
import TitleScript.Text.Case.Table
import TitleScript.Text.Case.Supplement
import TitleScript.Text.Case.Mapping
import TitleScript.Text.Cluster.Class
import TitleScript.Text.Segmenter
import TitleScript.Text.Word.Class
import TitleScript.Text.Cluster
import TitleScript.Text.Word
import TitleScript.Text.Bytes
import TitleScript.Text.EditDistance
import TitleScript.Text.Integer
import TitleScript.Text.Replacement
import TitleScript.Script.Character
import TitleScript.Script.Fault
import TitleScript.Script.Node
import TitleScript.Script.Token
import TitleScript.Script
import TitleScript.Bindings
import TitleScript.Name
import TitleScript.Outcome
import TitleScript.Record
import TitleScript.Settings
import TitleScript.Function
import TitleScript.Evaluation
import TitleScript.Json
import TitleScript.Track
import TitleScript.Track.Document
import TitleScript.Diagnostic
import TitleScript.Engine
import TitleScript.CommandLine.Arguments
import TitleScript.CommandLine
import TitleScript.Main
import TitleScript.Proofs.Script.Token
import TitleScript.Proofs.Script.Sequence
import TitleScript.Proofs.Script.Shape
import TitleScript.Proofs.Script.Step
import TitleScript.Proofs.Script.Reading
import TitleScript.Proofs.Script.Grammar
import TitleScript.Proofs.Script.NormalForm
import TitleScript.Proofs.Script.Writing
import TitleScript.Proofs.Script.RoundTrip
import TitleScript.Proofs.Script.Position
import TitleScript.Proofs.Script.Excerpt
import TitleScript.Proofs.Distinct
import TitleScript.Proofs.FanOut.Enumeration
import TitleScript.Proofs.Evaluation
import TitleScript.Proofs.Registry
import TitleScript.Proofs.FanOut.Plan
import TitleScript.Proofs.Text.CodePoints
import TitleScript.Proofs.Text.Integer
import TitleScript.Proofs.Text.Replacement
import TitleScript.Proofs.Function.Slicing
import TitleScript.Proofs.Text.LowerCase
import TitleScript.Proofs.Name
import TitleScript.Proofs.Name.Characters
import TitleScript.Proofs.Name.Entries
import TitleScript.Proofs.Registry.Change
import TitleScript.Proofs.Registry.History
import TitleScript.Proofs.Track
import TitleScript.Proofs.Registry.Spelling
import TitleScript.Proofs.Registry.Builtins
import TitleScript.Proofs.Registry.Listing
import TitleScript.Proofs.FanOut.Consistency
import TitleScript.Proofs.Evaluation.Walk
import TitleScript.Proofs.Function
import TitleScript.Proofs.Evaluation.Filling
import TitleScript.Proofs.Lint
import TitleScript.Proofs.Evaluation.Presence
import TitleScript.Proofs.Evaluation.Size
import TitleScript.Proofs.Evaluation.Dependence
import TitleScript.Proofs.Track.Assignment
import TitleScript.Proofs.Engine
import TitleScript.Proofs.Track.RoundTrip
import TitleScript.Proofs.Script.Nesting
import TitleScript.Proofs.Script.Embedding
import TitleScript.Proofs.Script.Composition
import TitleScript.Proofs.Script.Truncation
import TitleScript.Proofs.Evaluation.StaticGroup
import TitleScript.Proofs.Evaluation.Control
import TitleScript.Proofs.Evaluation.Lookup
import TitleScript.Proofs.Function.Replacement
import TitleScript.Proofs.Text.Padded
import TitleScript.Proofs.Function.Number
import TitleScript.Proofs.Function.Duration
import TitleScript.Proofs.Text.Cluster
import TitleScript.Proofs.Function.Width
import TitleScript.Proofs.Evaluation.Flags
import TitleScript.Proofs.Evaluation.Results
import TitleScript.Proofs.Text.EditDistance
import TitleScript.Proofs.Lint.Suggestion
import TitleScript.Proofs.Text.Sigma
import TitleScript.Proofs.Function.Capital
import TitleScript.Proofs.Text.Boundary
import TitleScript.Proofs.Text.LeadingInteger
import TitleScript.Proofs.Function.Safety
import TitleScript.Proofs.Partial
import TitleScript.Proofs.Script.Descent
import TitleScript.Proofs.Script.Correspondence

import EditorCore.CommandLine.Arguments
import EditorCore.CommandLine.Run
import EditorCore.Document.Basic
import EditorCore.Document.Edit
import EditorCore.Fault
import EditorCore.File.Collect
import EditorCore.File.Disk
import EditorCore.File.Node
import EditorCore.File.Path
import EditorCore.Language.C
import EditorCore.Language.Detection
import EditorCore.Language.Grammar
import EditorCore.Language.Kind
import EditorCore.Language.Lexer
import EditorCore.Language.Plain
import EditorCore.Language.Python
import EditorCore.Language.Rules
import EditorCore.Main
import EditorCore.Number.Binary64
import EditorCore.Paint
import EditorCore.Pattern.Basic
import EditorCore.Pattern.Bracket
import EditorCore.Pattern.ClassName
import EditorCore.Pattern.Encoded
import EditorCore.Pattern.Escape
import EditorCore.Pattern.Machine
import EditorCore.Pattern.Match
import EditorCore.Pattern.Matcher
import EditorCore.Pattern.Meaning
import EditorCore.Pattern.Reader
import EditorCore.Pattern.Regex
import EditorCore.Pattern.Size
import EditorCore.Proofs.Document.Edit
import EditorCore.Proofs.Document.History
import EditorCore.Proofs.Language.Moves
import EditorCore.Proofs.Language.Ordinary
import EditorCore.Proofs.Language.Pass
import EditorCore.Proofs.Language.Regions
import EditorCore.Proofs.Language.Restyle
import EditorCore.Proofs.Language.Resume
import EditorCore.Proofs.Language.Rules
import EditorCore.Proofs.Language.Shown
import EditorCore.Proofs.Language.Stability
import EditorCore.Proofs.Language.TableWords
import EditorCore.Proofs.Style.Surroundings
import EditorCore.Proofs.Text.Offsets
import EditorCore.Proofs.Token.Partition
import EditorCore.Proofs.Token.Places
import EditorCore.Search.Basic
import EditorCore.Search.Worker
import EditorCore.Session
import EditorCore.Settings
import EditorCore.Style.Buffer
import EditorCore.Style.Category
import EditorCore.Style.Color
import EditorCore.Style.Context
import EditorCore.Style.Registry
import EditorCore.Text.Age
import EditorCore.Text.Blank
import EditorCore.Text.Bytes
import EditorCore.Text.CaseFold
import EditorCore.Text.CharSet
import EditorCore.Text.Decimal
import EditorCore.Text.Edition
import EditorCore.Text.GeneralCategory
import EditorCore.Text.Letter
import EditorCore.Text.Line
import EditorCore.Text.LineEnding
import EditorCore.Text.Lowercase
import EditorCore.Text.Property
import EditorCore.Text.Quoted
import EditorCore.Text.Script
import EditorCore.Text.Segment
import EditorCore.Text.Table
import EditorCore.Text.Width
import EditorCore.Theme.Basic
import EditorCore.Theme.Builtin
import EditorCore.Theme.Source
import EditorCore.Token.Backward
import EditorCore.Token.Basic
import EditorCore.Token.Rule
import EditorCore.Toml.Reader
import EditorCore.Toml.Scalar
import EditorCore.Toml.Section
import EditorCore.Toml.Value
import EditorCore.Proofs.Token.Alignment
import EditorCore.Proofs.Document.Kept
import EditorCore.Proofs.Session.Names
import EditorCore.Proofs.Search.Item
import EditorCore.Proofs.Search.Leftmost
import EditorCore.Proofs.Search.Results
import EditorCore.Proofs.Document.Reopening
import EditorCore.Proofs.File.Paths
import EditorCore.Proofs.Session.OpenOnce
import EditorCore.Proofs.File.Collection
import EditorCore.Proofs.Search.Schedule
import EditorCore.Proofs.Style.Spans
import EditorCore.Proofs.Document.Characters
import EditorCore.Proofs.Paint.Terminal
import EditorCore.Proofs.CommandLine.Replacing
import EditorCore.Proofs.CommandLine.Duplicating
import EditorCore.Proofs.Text.LineBreaks
import EditorCore.Proofs.Document.LineEndings
import EditorCore.Proofs.Language.Conservation
import EditorCore.Proofs.Token.Priority
import EditorCore.Proofs.Document.Damage
import EditorCore.Proofs.Language.Slices
import EditorCore.Proofs.Document.Attempt
import EditorCore.Proofs.Token.Splitting
import EditorCore.Proofs.Language.DeclaredNames
import EditorCore.Proofs.Text.Decimal
import EditorCore.Proofs.Settings.Rereading
import EditorCore.Proofs.Language.LetterCase
import EditorCore.Proofs.Session.FirstFree
import EditorCore.Proofs.Text.Normalizing
import EditorCore.Proofs.Theme.Reading
import EditorCore.Proofs.Session.CopyLanguage
import EditorCore.Proofs.Style.HexColor
import EditorCore.Proofs.Language.Registered
import EditorCore.Proofs.Theme.Merging
import EditorCore.Proofs.Language.Capturing
import EditorCore.Proofs.Style.RunLengths
import EditorCore.Language.Cursor
import EditorCore.Proofs.Language.Machine
import EditorCore.Proofs.File.Trees
import EditorCore.Proofs.File.Following
import EditorCore.Proofs.File.Writing
import EditorCore.Proofs.File.Canonical
import EditorCore.Proofs.Text.CharSets
import EditorCore.Proofs.Pattern.Building
import EditorCore.Proofs.Pattern.Preference
import EditorCore.Proofs.Pattern.Running
import EditorCore.Proofs.Pattern.Settling
import EditorCore.Proofs.Token.Matches

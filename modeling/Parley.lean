import Parley.Alignment.Search
import Parley.Alignment.Visited
import Parley.Arrays
import Parley.Bot.Basic
import Parley.Bot.Loading
import Parley.Bot.Matching
import Parley.CommandLine.Arguments
import Parley.CommandLine.Files
import Parley.CommandLine.Report
import Parley.CommandLine.Run
import Parley.Decimal.Digit
import Parley.Decimal.Reader
import Parley.Decimal.Shortest
import Parley.Error
import Parley.Main
import Parley.Message
import Parley.Pattern.Lexeme
import Parley.Pattern.Malformed
import Parley.Pattern.Reader
import Parley.Pattern.Specificity
import Parley.Pattern.Tag
import Parley.Pattern.Token
import Parley.Proofs.Alignment.Captures
import Parley.Proofs.Alignment.Preference
import Parley.Proofs.Alignment.Punctuation
import Parley.Proofs.Alignment.Search
import Parley.Proofs.Bot.Accounting
import Parley.Proofs.Bot.Access
import Parley.Proofs.Bot.Arena
import Parley.Proofs.Bot.BestMatch
import Parley.Proofs.Bot.Captures
import Parley.Proofs.Bot.Copies
import Parley.Proofs.Bot.ExactPhrase
import Parley.Proofs.Bot.Freshness
import Parley.Proofs.Bot.Identity
import Parley.Proofs.Bot.Invariants
import Parley.Proofs.Bot.Numbers
import Parley.Proofs.Bot.Owners
import Parley.Proofs.Bot.Registrations
import Parley.Proofs.Bot.Renumbering
import Parley.Proofs.Bot.Reordering
import Parley.Proofs.Bot.Repetition
import Parley.Proofs.Bot.Replacement
import Parley.Proofs.Bot.Rereading
import Parley.Proofs.Bot.Runs
import Parley.Proofs.Bot.Safety
import Parley.Proofs.Bot.Scripts
import Parley.Proofs.Bot.Topics
import Parley.Proofs.Bot.Unrelated
import Parley.Proofs.CommandLine.ExitCode
import Parley.Proofs.CommandLine.Spellings
import Parley.Proofs.Message.Separators
import Parley.Proofs.Message.Words
import Parley.Proofs.Pattern.Canonical
import Parley.Proofs.Pattern.Grammar
import Parley.Proofs.Pattern.Literals
import Parley.Proofs.Pattern.Tags
import Parley.Proofs.Script.Concatenation
import Parley.Proofs.Script.Rendering
import Parley.Proofs.Script.Versions
import Parley.Proofs.Text.Keys
import Parley.Proofs.Text.Lines
import Parley.Proofs.Text.LowerCase
import Parley.Proofs.Text.Words
import Parley.Proofs.Topic.CanonicalOrder
import Parley.Proofs.Topic.Collapse
import Parley.Proofs.Topic.Cuts
import Parley.Proofs.Topic.Frame
import Parley.Proofs.Topic.Growth
import Parley.Proofs.Topic.Listings
import Parley.Proofs.Topic.Monotonicity
import Parley.Proofs.Topic.Occurrences
import Parley.Proofs.Topic.Owners
import Parley.Proofs.Topic.Preorder
import Parley.Proofs.Topic.Ranks
import Parley.Proofs.Topic.Renumbering
import Parley.Proofs.Topic.Routes
import Parley.Proofs.Topic.Tree
import Parley.Proofs.Unicode.SmallLetters
import Parley.Script.Definition
import Parley.Script.Line
import Parley.Script.Reader
import Parley.Script.Warning
import Parley.Text.Quoted
import Parley.Text.Strings
import Parley.Text.Words
import Parley.Topic.Collapse
import Parley.Topic.Graph
import Parley.Topic.Order
import Parley.Topic.Owner
import Parley.Topic.Sorting
import Parley.Topic.Tree
import Parley.Topic.Visibility
import Parley.Unicode.Alphabetic
import Parley.Unicode.Cased
import Parley.Unicode.Interval
import Parley.Unicode.Letter
import Parley.Unicode.Lowercase
import Parley.Unicode.Number
import Parley.Unicode.Visible
import Parley.Unicode.WhiteSpace
import Parley.Unicode.WordChar
import Parley.Proofs.Alignment.Loop

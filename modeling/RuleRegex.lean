import RuleRegex.Escape.Convert
import RuleRegex.Json.Reader
import RuleRegex.Json.Writer
import RuleRegex.Unicode.Property
import RuleRegex.Text.Utf8Fault
import RuleRegex.Pattern.Flaw
import RuleRegex.Pattern.Syntax
import RuleRegex.Pattern.Reader
import RuleRegex.Pattern.Opening
import RuleRegex.Pattern.Survey
import RuleRegex.Program.Compile
import RuleRegex.Program.Possessify
import RuleRegex.Program.Size
import RuleRegex.Hints.OfPattern
import RuleRegex.Match.Run
import RuleRegex.Base64
import RuleRegex.Text.Integer
import RuleRegex.Text.Utf8
import RuleRegex.Source.Document
import RuleRegex.Source.Record
import RuleRegex.Session
import RuleRegex.Engine.Standard
import RuleRegex.CommandLine.Run
import RuleRegex.Proofs.Regex.Converted
import RuleRegex.Proofs.Escape.Utf8
import RuleRegex.Proofs.Record.Stream
import RuleRegex.Proofs.Session.OwnCache
import RuleRegex.Proofs.Session.Configuration
import RuleRegex.Proofs.Session.Identity
import RuleRegex.Proofs.Escape.Backslash
import RuleRegex.Proofs.Source.Document
import RuleRegex.Proofs.Session.Failure
import RuleRegex.Proofs.Config.Accepted
import RuleRegex.Proofs.Session.ProcessCache
import RuleRegex.Proofs.Session.Inclusion
import RuleRegex.Proofs.CommandLine.Stored
import RuleRegex.Proofs.Text.Hex
import RuleRegex.Proofs.Escape.Origin
import RuleRegex.Proofs.CommandLine.Untrusted
import RuleRegex.Proofs.Escape.ByteOffset
import RuleRegex.Proofs.Record.Canonical
import RuleRegex.Proofs.Record.FromEnd
import RuleRegex.Proofs.Base64.Language
import RuleRegex.Proofs.Source.Fault
import RuleRegex.Proofs.Regex.Compiled
import RuleRegex.Proofs.Regex.Groups
import RuleRegex.Proofs.Config.Reading
import RuleRegex.Proofs.Escape.Value
import RuleRegex.Proofs.Escape.Partition
import RuleRegex.Proofs.CommandLine.Words
import RuleRegex.Proofs.Source.Order
import RuleRegex.Proofs.Text.Quoted
import RuleRegex.Proofs.CommandLine.Answered
import RuleRegex.Proofs.CommandLine.Shown

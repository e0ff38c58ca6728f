import ManifestNotice.Chat.Answer
import ManifestNotice.Chat.Client
import ManifestNotice.Chat.Token
import ManifestNotice.CommandLine
import ManifestNotice.Commit
import ManifestNotice.Credentials
import ManifestNotice.Decimal.Binary64
import ManifestNotice.Decimal.Shortest
import ManifestNotice.Delivery
import ManifestNotice.Fault
import ManifestNotice.FileTree
import ManifestNotice.Http
import ManifestNotice.Http.Exchange
import ManifestNotice.Http.Fault
import ManifestNotice.Http.Redirect
import ManifestNotice.Json
import ManifestNotice.Json.Fault
import ManifestNotice.Json.Numeral
import ManifestNotice.Json.Quoted
import ManifestNotice.Json.Record
import ManifestNotice.Json.Skip
import ManifestNotice.Log
import ManifestNotice.Log.Filter
import ManifestNotice.Log.Pattern
import ManifestNotice.Log.Pattern.Atom
import ManifestNotice.Log.Pattern.Bracket
import ManifestNotice.Main
import ManifestNotice.ManPage
import ManifestNotice.Notice
import ManifestNotice.Program
import ManifestNotice.Proofs.Chat.Acceptance
import ManifestNotice.Proofs.Chat.Bearer
import ManifestNotice.Proofs.Chat.Delivery
import ManifestNotice.Proofs.Chat.Destination
import ManifestNotice.Proofs.Chat.Due
import ManifestNotice.Proofs.Chat.Events
import ManifestNotice.Proofs.Chat.Grant
import ManifestNotice.Proofs.Chat.History
import ManifestNotice.Proofs.Chat.Lifetime
import ManifestNotice.Proofs.Chat.Outcome
import ManifestNotice.Proofs.Chat.Refusal
import ManifestNotice.Proofs.Chat.Requests
import ManifestNotice.Proofs.Chat.Steps
import ManifestNotice.Proofs.Chat.Unseen
import ManifestNotice.Proofs.CommandLine
import ManifestNotice.Proofs.CommandLine.Verbosity
import ManifestNotice.Proofs.Commit
import ManifestNotice.Proofs.FileTree.Alike
import ManifestNotice.Proofs.FileTree.Path
import ManifestNotice.Proofs.Http.Chain
import ManifestNotice.Proofs.Http.Unsigned
import ManifestNotice.Proofs.Json.Form
import ManifestNotice.Proofs.Json.Grammar
import ManifestNotice.Proofs.Json.Kept
import ManifestNotice.Proofs.Json.Members
import ManifestNotice.Proofs.Json.Numeral
import ManifestNotice.Proofs.Json.Quoted
import ManifestNotice.Proofs.Json.Skip
import ManifestNotice.Proofs.Json.Typed
import ManifestNotice.Proofs.Json.Writing
import ManifestNotice.Proofs.Log.Filter
import ManifestNotice.Proofs.Notice
import ManifestNotice.Proofs.Program.Acceptance
import ManifestNotice.Proofs.Program.Commit
import ManifestNotice.Proofs.Program.Events
import ManifestNotice.Proofs.Program.Logging
import ManifestNotice.Proofs.Program.Once
import ManifestNotice.Proofs.Program.Plain
import ManifestNotice.Proofs.Program.Rehearsal
import ManifestNotice.Proofs.Program.Slashes
import ManifestNotice.Proofs.Program.Stages
import ManifestNotice.Proofs.Program.Steps
import ManifestNotice.Proofs.Program.Unseen
import ManifestNotice.Proofs.Program.Verbatim
import ManifestNotice.Proofs.Settings.Nearest
import ManifestNotice.Proofs.Settings.RoundTrip
import ManifestNotice.Proofs.Steps
import ManifestNotice.Proofs.Text.Composed
import ManifestNotice.Proofs.Text.Cut
import ManifestNotice.Proofs.Text.Utf8
import ManifestNotice.Proofs.Toml.Grammar
import ManifestNotice.Proofs.Toml.Quoted
import ManifestNotice.Proofs.Url.Host
import ManifestNotice.Settings
import ManifestNotice.Settings.Load
import ManifestNotice.Settings.Overlay
import ManifestNotice.SystemError
import ManifestNotice.Text.Alphanumeric
import ManifestNotice.Text.Base64
import ManifestNotice.Text.Blank
import ManifestNotice.Text.CombiningClass
import ManifestNotice.Text.Composed
import ManifestNotice.Text.Composition
import ManifestNotice.Text.Excerpt
import ManifestNotice.Text.Extending
import ManifestNotice.Text.Hex
import ManifestNotice.Text.Mark
import ManifestNotice.Text.Printable
import ManifestNotice.Text.Quoted
import ManifestNotice.Text.Terminal
import ManifestNotice.Text.Utf8
import ManifestNotice.Toml.Document
import ManifestNotice.Toml.Number
import ManifestNotice.Toml.Quoted
import ManifestNotice.Toml.Statement
import ManifestNotice.Toml.Value
import ManifestNotice.Url
import ManifestNotice.Url.Domain
import ManifestNotice.Url.Domain.Direction
import ManifestNotice.Url.Domain.Form
import ManifestNotice.Url.Domain.Joining
import ManifestNotice.Url.Encode
import ManifestNotice.Url.Host
import ManifestNotice.Url.Parse
import ManifestNotice.Url.Punycode
import ManifestNotice.Version

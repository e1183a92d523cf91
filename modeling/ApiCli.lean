import ApiCli.Document.Node
import ApiCli.Main
import ApiCli.Proofs.Session.Exchange
import ApiCli.Proofs.Client.Dispatch
import ApiCli.Proofs.Except
import ApiCli.Proofs.Client.Protocol
import ApiCli.Proofs.Dict
import ApiCli.Proofs.Logged
import ApiCli.Proofs.Command.Flags
import ApiCli.Proofs.Command.Compilation
import ApiCli.Proofs.Arguments.Level
import ApiCli.Proofs.Arguments.Given
import ApiCli.Proofs.Arguments.Spelling
import ApiCli.Proofs.Arguments.Assignments
import ApiCli.Proofs.Arguments.Accepted
import ApiCli.Proofs.Command.Provenance
import ApiCli.Proofs.Command.Consistency
import ApiCli.Proofs.Text.Split
import ApiCli.Proofs.Arguments.Value
import ApiCli.Proofs.Client.Call
import ApiCli.Proofs.Client.Travel
import ApiCli.Proofs.Http.Header
import ApiCli.Proofs.Client.TraceContext
import ApiCli.Proofs.Client.RawArgs
import ApiCli.Proofs.Text.Utf8
import ApiCli.Proofs.Text.Percent
import ApiCli.Proofs.Text.Normalize
import ApiCli.Proofs.Text.Case
import ApiCli.Proofs.Text.Kebab
import ApiCli.Proofs.Text.Kebab.Hyphens
import ApiCli.Proofs.Text.Kebab.Again
import ApiCli.Proofs.Text.Replace
import ApiCli.Proofs.Client.Template
import ApiCli.Proofs.Url.Segments
import ApiCli.Proofs.Url.Parse
import ApiCli.Proofs.Url.Authority
import ApiCli.Proofs.Url.Origin
import ApiCli.Proofs.Url.Endpoint
import ApiCli.Proofs.Client.PathValues
import ApiCli.Proofs.Client.Origin
import ApiCli.Proofs.Command.References
import ApiCli.Proofs.Command.Inlining
import ApiCli.Proofs.Command.Environments
import ApiCli.Proofs.Command.Declarations
import ApiCli.Proofs.Command.Overriding
import ApiCli.Proofs.Url.Query
import ApiCli.Proofs.Client.Substitution
import ApiCli.Proofs.Client.Encoding
import ApiCli.Proofs.Client.RequiredFlags
import ApiCli.Proofs.Client.ExplicitValues
import ApiCli.Proofs.Client.PathBinding
import ApiCli.Proofs.Client.Output
import ApiCli.Proofs.Client.HeaderFields
import ApiCli.Proofs.Json.Merge
import ApiCli.Proofs.Json.Canonical
import ApiCli.Proofs.Json.Again
import ApiCli.Proofs.Json.Paths
import ApiCli.Proofs.Json.Compatible
import ApiCli.Proofs.Json.Numeral
import ApiCli.Proofs.Json.Quoted
import ApiCli.Proofs.Json.Token
import ApiCli.Proofs.Json.Parsed
import ApiCli.Proofs.Json.Reread
import ApiCli.Proofs.Json.Readable
import ApiCli.Proofs.Json.Extensions
import ApiCli.Proofs.Json.Literal
import ApiCli.Proofs.Json.Regular
import ApiCli.Proofs.Json.History
import ApiCli.Proofs.Document.Override
import ApiCli.Proofs.Document.Resolved
import ApiCli.Proofs.Document.Extensions
import ApiCli.Proofs.Document.CommandMap
import ApiCli.Proofs.Document.Lenient
import ApiCli.Proofs.Client.GlobalWords
import ApiCli.Proofs.Client.WordGroups
import ApiCli.Proofs.Client.DefaultCommand
import ApiCli.Proofs.Client.Names
import ApiCli.Proofs.Client.Globals

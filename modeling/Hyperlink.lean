import Hyperlink.Block
import Hyperlink.Block.Pattern
import Hyperlink.Command
import Hyperlink.Comment
import Hyperlink.Config
import Hyperlink.Decimal.Nearest
import Hyperlink.Decimal.Shortest
import Hyperlink.Dictionary
import Hyperlink.Domain.Label
import Hyperlink.Domain.Name
import Hyperlink.Domain.Punycode
import Hyperlink.EntityType
import Hyperlink.Error
import Hyperlink.Fault
import Hyperlink.FileState
import Hyperlink.Gateway
import Hyperlink.Identifier.Basic
import Hyperlink.Identifier.Canonical
import Hyperlink.Identifier.Json
import Hyperlink.Identifier.Unpack
import Hyperlink.Identifier.Web
import Hyperlink.Json.Printer
import Hyperlink.Json.Reader
import Hyperlink.Json.Record
import Hyperlink.Json.Token
import Hyperlink.Json.Value
import Hyperlink.Locator
import Hyperlink.Main
import Hyperlink.Proofs.Block.Grammar
import Hyperlink.Proofs.Block.Pattern
import Hyperlink.Proofs.Block.Printing
import Hyperlink.Proofs.Block.Reading
import Hyperlink.Proofs.Block.Record
import Hyperlink.Proofs.Command.RoundTrip
import Hyperlink.Proofs.Config.Document
import Hyperlink.Proofs.Config.Store
import Hyperlink.Proofs.Dictionary.Entries
import Hyperlink.Proofs.Domain.Name
import Hyperlink.Proofs.Domain.Punycode
import Hyperlink.Proofs.Gateway.Again
import Hyperlink.Proofs.Gateway.Authority
import Hyperlink.Proofs.Gateway.Origin
import Hyperlink.Proofs.Identifier.Canonical
import Hyperlink.Proofs.Identifier.Entity
import Hyperlink.Proofs.Identifier.Forms
import Hyperlink.Proofs.Identifier.Fragment
import Hyperlink.Proofs.Identifier.Invariant
import Hyperlink.Proofs.Identifier.Layout
import Hyperlink.Proofs.Identifier.Normal
import Hyperlink.Proofs.Identifier.Pinning
import Hyperlink.Proofs.Identifier.Reading
import Hyperlink.Proofs.Identifier.Record
import Hyperlink.Proofs.Identifier.RoundTrip
import Hyperlink.Proofs.Identifier.Settling
import Hyperlink.Proofs.Identifier.Sharing
import Hyperlink.Proofs.Identifier.Spelling
import Hyperlink.Proofs.Json.Nesting
import Hyperlink.Proofs.Json.RoundTrip
import Hyperlink.Proofs.Json.Scanning
import Hyperlink.Proofs.Json.Sorting
import Hyperlink.Proofs.Locator.Decomposition
import Hyperlink.Proofs.Locator.Reading
import Hyperlink.Proofs.Shell.Links
import Hyperlink.Proofs.Shell.Promises
import Hyperlink.Proofs.Text.Cutting
import Hyperlink.Proofs.Text.Digits
import Hyperlink.Proofs.Text.Occurrence
import Hyperlink.Proofs.Text.Table
import Hyperlink.Proofs.Thread.Ancestry
import Hyperlink.Proofs.Thread.Descent
import Hyperlink.Proofs.Thread.Drill
import Hyperlink.Proofs.Thread.Grouping
import Hyperlink.Proofs.Thread.Groups
import Hyperlink.Proofs.Thread.Growth
import Hyperlink.Proofs.Thread.Index
import Hyperlink.Proofs.Thread.Lineage
import Hyperlink.Proofs.Thread.Reordering
import Hyperlink.Proofs.Thread.Start
import Hyperlink.Proofs.Thread.Walk
import Hyperlink.Proofs.Toml.Strings
import Hyperlink.Proofs.Unicode.Composed
import Hyperlink.Proofs.Unicode.Tables
import Hyperlink.Proofs.Url.Address
import Hyperlink.Proofs.Url.Authority
import Hyperlink.Proofs.Url.Host
import Hyperlink.Proofs.Url.Path
import Hyperlink.Proofs.Url.Percent
import Hyperlink.Proofs.Url.Rereading
import Hyperlink.Proofs.View.Appending
import Hyperlink.Proofs.View.Reading
import Hyperlink.Scheme
import Hyperlink.Shell.Invocation
import Hyperlink.Shell.Options
import Hyperlink.Shell.Run
import Hyperlink.Text.Blank
import Hyperlink.Text.Cut
import Hyperlink.Text.Hex
import Hyperlink.Text.Quoted
import Hyperlink.Text.Ranges
import Hyperlink.Thread
import Hyperlink.Thread.Index
import Hyperlink.Toml.Reader
import Hyperlink.Toml.Text
import Hyperlink.Toml.Value
import Hyperlink.Toml.Word
import Hyperlink.Unicode.Bidi
import Hyperlink.Unicode.CombiningClass
import Hyperlink.Unicode.Composite
import Hyperlink.Unicode.Joining
import Hyperlink.Unicode.Mapping
import Hyperlink.Unicode.Mark
import Hyperlink.Unicode.Normal
import Hyperlink.Unicode.Unprintable
import Hyperlink.Unicode.Valid
import Hyperlink.Url.Basic
import Hyperlink.Url.Host
import Hyperlink.Url.Ipv4
import Hyperlink.Url.Ipv6
import Hyperlink.Url.Path
import Hyperlink.Url.Percent
import Hyperlink.View

import NodeDiscovery.Address.Kind
import NodeDiscovery.Address.V4
import NodeDiscovery.Address.V6
import NodeDiscovery.Call
import NodeDiscovery.Cli
import NodeDiscovery.Config.Basic
import NodeDiscovery.Config.Json
import NodeDiscovery.Config.Parser
import NodeDiscovery.Config.Printer
import NodeDiscovery.Config.SyntaxError
import NodeDiscovery.Config.Token
import NodeDiscovery.Discovery
import NodeDiscovery.DiscoveryError
import NodeDiscovery.Dns.Name
import NodeDiscovery.Dns.Resolver
import NodeDiscovery.Duration.Basic
import NodeDiscovery.Duration.Reader
import NodeDiscovery.Ec2.Region
import NodeDiscovery.Ec2.Request
import NodeDiscovery.Http.Fetch
import NodeDiscovery.Http.Form
import NodeDiscovery.Http.Header
import NodeDiscovery.Http.Host
import NodeDiscovery.Http.Percent
import NodeDiscovery.Http.Request
import NodeDiscovery.Http.Status
import NodeDiscovery.Http.Url
import NodeDiscovery.Idna.Composition
import NodeDiscovery.Idna.Direction
import NodeDiscovery.Idna.Domain
import NodeDiscovery.Idna.Joining
import NodeDiscovery.Idna.Mapping
import NodeDiscovery.Idna.Punycode
import NodeDiscovery.Json.Parser
import NodeDiscovery.Json.Record
import NodeDiscovery.Json.Token
import NodeDiscovery.Json.Value
import NodeDiscovery.Json.Writer
import NodeDiscovery.Listing
import NodeDiscovery.Log
import NodeDiscovery.LogFilter
import NodeDiscovery.Main
import NodeDiscovery.Proofs.Address.V4
import NodeDiscovery.Proofs.AllOrNothing
import NodeDiscovery.Proofs.Arguments
import NodeDiscovery.Proofs.Builtin
import NodeDiscovery.Proofs.Call
import NodeDiscovery.Proofs.Cli
import NodeDiscovery.Proofs.CommandLine.Output
import NodeDiscovery.Proofs.Config.Concatenation
import NodeDiscovery.Proofs.Config.Disclosure
import NodeDiscovery.Proofs.Config.Escaping
import NodeDiscovery.Proofs.Config.Fault
import NodeDiscovery.Proofs.Config.Grammar
import NodeDiscovery.Proofs.Config.History
import NodeDiscovery.Proofs.Config.Json
import NodeDiscovery.Proofs.Config.KeyFault
import NodeDiscovery.Proofs.Config.Progress
import NodeDiscovery.Proofs.Config.Quoting
import NodeDiscovery.Proofs.Config.RoundTrip
import NodeDiscovery.Proofs.Config.Scan
import NodeDiscovery.Proofs.Config.Separation
import NodeDiscovery.Proofs.Config.Spelling
import NodeDiscovery.Proofs.DigitalOcean.Discovery
import NodeDiscovery.Proofs.DigitalOcean.Search
import NodeDiscovery.Proofs.DigitalOcean.Tags
import NodeDiscovery.Proofs.Dispatch
import NodeDiscovery.Proofs.Ec2.Batching
import NodeDiscovery.Proofs.Ec2.Search
import NodeDiscovery.Proofs.Ec2.Signing
import NodeDiscovery.Proofs.Employment
import NodeDiscovery.Proofs.EmptyOption
import NodeDiscovery.Proofs.Findings
import NodeDiscovery.Proofs.Hetzner.Search
import NodeDiscovery.Proofs.Hetzner.Selection
import NodeDiscovery.Proofs.Http.Fetch
import NodeDiscovery.Proofs.Http.Folder
import NodeDiscovery.Proofs.Http.Form
import NodeDiscovery.Proofs.Http.Query
import NodeDiscovery.Proofs.Http.Search
import NodeDiscovery.Proofs.Http.Service
import NodeDiscovery.Proofs.Identity
import NodeDiscovery.Proofs.Inquiry
import NodeDiscovery.Proofs.Json.Document
import NodeDiscovery.Proofs.Json.Writing
import NodeDiscovery.Proofs.Linode.Document
import NodeDiscovery.Proofs.Linode.Filter
import NodeDiscovery.Proofs.Linode.LinkLocal
import NodeDiscovery.Proofs.Linode.Listing
import NodeDiscovery.Proofs.Linode.Partition
import NodeDiscovery.Proofs.Linode.Search
import NodeDiscovery.Proofs.Listing
import NodeDiscovery.Proofs.Logging
import NodeDiscovery.Proofs.Mirror
import NodeDiscovery.Proofs.Queries
import NodeDiscovery.Proofs.Registration
import NodeDiscovery.Proofs.Search
import NodeDiscovery.Proofs.Session
import NodeDiscovery.Proofs.Status
import NodeDiscovery.Proofs.Token
import NodeDiscovery.Proofs.Vultr.Search
import NodeDiscovery.Proofs.Walk
import NodeDiscovery.Provider.Basic
import NodeDiscovery.Provider.CommandLine
import NodeDiscovery.Provider.DigitalOcean
import NodeDiscovery.Provider.Dns
import NodeDiscovery.Provider.Ec2
import NodeDiscovery.Provider.Error
import NodeDiscovery.Provider.Hetzner
import NodeDiscovery.Provider.Linode
import NodeDiscovery.Provider.Options
import NodeDiscovery.Provider.Stub
import NodeDiscovery.Provider.Vultr
import NodeDiscovery.Regex.Basic
import NodeDiscovery.Regex.Reader
import NodeDiscovery.Registry
import NodeDiscovery.Shell.Arithmetic
import NodeDiscovery.Shell.Builtin
import NodeDiscovery.Shell.Builtin.Options
import NodeDiscovery.Shell.Builtin.Places
import NodeDiscovery.Shell.Builtin.Processes
import NodeDiscovery.Shell.Builtin.Variables
import NodeDiscovery.Shell.Condition
import NodeDiscovery.Shell.Double
import NodeDiscovery.Shell.Escape
import NodeDiscovery.Shell.Evaluation
import NodeDiscovery.Shell.Expansion
import NodeDiscovery.Shell.Field
import NodeDiscovery.Shell.Files
import NodeDiscovery.Shell.Format
import NodeDiscovery.Shell.Jobs
import NodeDiscovery.Shell.Launch
import NodeDiscovery.Shell.Machine
import NodeDiscovery.Shell.Number
import NodeDiscovery.Shell.Outcome
import NodeDiscovery.Shell.Pattern
import NodeDiscovery.Shell.Reader.Basic
import NodeDiscovery.Shell.Reader.Script
import NodeDiscovery.Shell.Redirection
import NodeDiscovery.Shell.Runner
import NodeDiscovery.Shell.Signal
import NodeDiscovery.Shell.Simple
import NodeDiscovery.Shell.Startup
import NodeDiscovery.Shell.Syntax
import NodeDiscovery.Shell.System
import NodeDiscovery.Shell.Task
import NodeDiscovery.Shell.Text
import NodeDiscovery.Shell.Tool
import NodeDiscovery.Shell.Tool.Basic
import NodeDiscovery.Shell.Tool.Changing
import NodeDiscovery.Shell.Tool.Columns
import NodeDiscovery.Shell.Tool.Editing
import NodeDiscovery.Shell.Tool.Expression
import NodeDiscovery.Shell.Tool.Paths
import NodeDiscovery.Shell.Tool.Process
import NodeDiscovery.Shell.Tool.Search
import NodeDiscovery.Shell.Tool.Sorting
import NodeDiscovery.Shell.Tool.Streams
import NodeDiscovery.Table
import NodeDiscovery.Text.Blank
import NodeDiscovery.Text.Extending
import NodeDiscovery.Text.Lines
import NodeDiscovery.Text.Numeral
import NodeDiscovery.Text.Numeric
import NodeDiscovery.Text.Quoted
import NodeDiscovery.Text.Unprintable
import NodeDiscovery.Text.Utf8
import NodeDiscovery.Text.Word
import NodeDiscovery.World
import NodeDiscovery.World.Offline

import NodeScaler.Cli.Arguments
import NodeScaler.Cli.Report
import NodeScaler.Cli.Run
import NodeScaler.Config.Backend
import NodeScaler.Config.Cluster
import NodeScaler.Config.ClusterFile
import NodeScaler.Config.Error
import NodeScaler.Config.GroupSpec
import NodeScaler.Domain.Composition
import NodeScaler.Domain.Direction
import NodeScaler.Domain.Joining
import NodeScaler.Domain.Mark
import NodeScaler.Domain.Name
import NodeScaler.Domain.Punycode
import NodeScaler.Domain.Substitute
import NodeScaler.Http.Exchange
import NodeScaler.Http.Host
import NodeScaler.Http.Percent
import NodeScaler.Http.Redirect
import NodeScaler.Http.Scripted
import NodeScaler.Http.Url
import NodeScaler.Inventory.Client
import NodeScaler.Inventory.Error
import NodeScaler.Inventory.Memory
import NodeScaler.Inventory.Naming
import NodeScaler.Inventory.Object
import NodeScaler.Inventory.ObjectJson
import NodeScaler.Inventory.Watched
import NodeScaler.Json.Reader
import NodeScaler.Json.Value
import NodeScaler.Json.Writer
import NodeScaler.Main
import NodeScaler.Plan.Basic
import NodeScaler.Plan.Concurrent
import NodeScaler.Plan.Run
import NodeScaler.Proofs.Cli.ScalingUp
import NodeScaler.Proofs.Config.Discovery
import NodeScaler.Proofs.Config.Flaws
import NodeScaler.Proofs.Config.Selection
import NodeScaler.Proofs.Http.Address
import NodeScaler.Proofs.Http.Exchange
import NodeScaler.Proofs.Http.Percent
import NodeScaler.Proofs.Http.Redirect
import NodeScaler.Proofs.Http.Segment
import NodeScaler.Proofs.Http.Signature
import NodeScaler.Proofs.Http.User
import NodeScaler.Proofs.Inventory.Answering
import NodeScaler.Proofs.Inventory.Carried
import NodeScaler.Proofs.Inventory.Faults
import NodeScaler.Proofs.Inventory.Growth
import NodeScaler.Proofs.Inventory.Identity
import NodeScaler.Proofs.Inventory.Racing
import NodeScaler.Proofs.Inventory.Reachable
import NodeScaler.Proofs.Inventory.Referencing
import NodeScaler.Proofs.Inventory.Renumbering
import NodeScaler.Proofs.Inventory.Told
import NodeScaler.Proofs.Json.ReadBack
import NodeScaler.Proofs.Json.Reading
import NodeScaler.Proofs.Json.Spelling
import NodeScaler.Proofs.Plan.Asking
import NodeScaler.Proofs.Plan.Concluding
import NodeScaler.Proofs.Plan.Contract
import NodeScaler.Proofs.Plan.Errand
import NodeScaler.Proofs.Plan.Finishing
import NodeScaler.Proofs.Plan.Giving
import NodeScaler.Proofs.Plan.Harmless
import NodeScaler.Proofs.Plan.Hearing
import NodeScaler.Proofs.Plan.Interleaving
import NodeScaler.Proofs.Plan.Joining
import NodeScaler.Proofs.Plan.Matching
import NodeScaler.Proofs.Plan.Service
import NodeScaler.Proofs.Plan.Settling
import NodeScaler.Proofs.Plan.Transcript
import NodeScaler.Proofs.Plan.Twins
import NodeScaler.Proofs.Provider.Accounting
import NodeScaler.Proofs.Provider.Adding
import NodeScaler.Proofs.Provider.Agreement
import NodeScaler.Proofs.Provider.Asking
import NodeScaler.Proofs.Provider.Backends
import NodeScaler.Proofs.Provider.Balance
import NodeScaler.Proofs.Provider.Belonging
import NodeScaler.Proofs.Provider.Commuting
import NodeScaler.Proofs.Provider.Containment
import NodeScaler.Proofs.Provider.Counting
import NodeScaler.Proofs.Provider.Creating
import NodeScaler.Proofs.Provider.Credentials
import NodeScaler.Proofs.Provider.Freshness
import NodeScaler.Proofs.Provider.Increasing
import NodeScaler.Proofs.Provider.Itemizing
import NodeScaler.Proofs.Provider.Members
import NodeScaler.Proofs.Provider.Newcomers
import NodeScaler.Proofs.Provider.Numbering
import NodeScaler.Proofs.Provider.Operations
import NodeScaler.Proofs.Provider.Outcomes
import NodeScaler.Proofs.Provider.Prospects
import NodeScaler.Proofs.Provider.Reading
import NodeScaler.Proofs.Provider.Reporting
import NodeScaler.Proofs.Provider.Resize
import NodeScaler.Proofs.Provider.Roster
import NodeScaler.Proofs.Provider.Secrecy
import NodeScaler.Proofs.Provider.Serialization
import NodeScaler.Proofs.Provider.Starting
import NodeScaler.Proofs.Provider.Surveying
import NodeScaler.Proofs.Provider.Trials
import NodeScaler.Proofs.Provider.Trying
import NodeScaler.Proofs.Provider.Viewing
import NodeScaler.Proofs.Provider.Window
import NodeScaler.Proofs.Text.Encoding
import NodeScaler.Proofs.Text.Numeral
import NodeScaler.Proofs.Vcenter.Acting
import NodeScaler.Proofs.Vcenter.Asking
import NodeScaler.Proofs.Vcenter.Echoing
import NodeScaler.Proofs.Vcenter.Hearing
import NodeScaler.Proofs.Vcenter.Homonyms
import NodeScaler.Proofs.Vcenter.Identifiers
import NodeScaler.Proofs.Vcenter.Making
import NodeScaler.Proofs.Vcenter.Mirror
import NodeScaler.Proofs.Vcenter.Obtaining
import NodeScaler.Proofs.Vcenter.Placing
import NodeScaler.Proofs.Vcenter.Reordering
import NodeScaler.Proofs.Vcenter.Replica
import NodeScaler.Proofs.Vcenter.Requests
import NodeScaler.Proofs.Vcenter.Resolving
import NodeScaler.Proofs.Vcenter.Signing
import NodeScaler.Provider.Basic
import NodeScaler.Provider.Cloning
import NodeScaler.Provider.Error
import NodeScaler.Provider.Membership
import NodeScaler.Provider.NodeGroup
import NodeScaler.Provider.Provisioner
import NodeScaler.Provider.Scripted
import NodeScaler.Provider.Startup
import NodeScaler.Provider.Traffic
import NodeScaler.Text.Base64
import NodeScaler.Text.Blank
import NodeScaler.Text.Duration
import NodeScaler.Text.Integer
import NodeScaler.Text.Pieces
import NodeScaler.Text.Quoted
import NodeScaler.Text.Unshown
import NodeScaler.Toml.Document
import NodeScaler.Toml.Lexeme
import NodeScaler.Toml.Moment
import NodeScaler.Toml.Node
import NodeScaler.Toml.Number
import NodeScaler.Toml.Reader
import NodeScaler.Toml.Text
import NodeScaler.Toml.Value
import NodeScaler.Vcenter.Machine
import NodeScaler.Vcenter.Session
import NodeScaler.Vcenter.Tagging

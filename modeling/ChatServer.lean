import ChatServer.Archive
import ChatServer.Channel.Basic
import ChatServer.Channel.Event
import ChatServer.Channel.Name
import ChatServer.Channel.Service
import ChatServer.Channel.Snapshot
import ChatServer.Config
import ChatServer.Error
import ChatServer.Hosting.Error
import ChatServer.Hosting.Server
import ChatServer.Live.Address
import ChatServer.Live.Handshake
import ChatServer.Live.Host
import ChatServer.Live.Hub
import ChatServer.Live.Machine
import ChatServer.Live.Outbox
import ChatServer.Message
import ChatServer.Proofs.Channel.Closing
import ChatServer.Proofs.Channel.Correspondence
import ChatServer.Proofs.Channel.Departure
import ChatServer.Proofs.Channel.Guests
import ChatServer.Proofs.Channel.Keys
import ChatServer.Proofs.Channel.Lifetime
import ChatServer.Proofs.Channel.Listings
import ChatServer.Proofs.Channel.Notices
import ChatServer.Proofs.Channel.Operations
import ChatServer.Proofs.Channel.ReadingBack
import ChatServer.Proofs.Channel.Registry
import ChatServer.Proofs.Channel.Replay
import ChatServer.Proofs.Channel.Restart
import ChatServer.Proofs.Channel.Roster
import ChatServer.Proofs.Channel.Separation
import ChatServer.Proofs.Channel.Stale
import ChatServer.Proofs.Channel.Withdrawal
import ChatServer.Proofs.Config
import ChatServer.Proofs.History
import ChatServer.Proofs.Hosting.Binding
import ChatServer.Proofs.Hosting.Servers
import ChatServer.Proofs.Live.Building
import ChatServer.Proofs.Live.Connections
import ChatServer.Proofs.Live.Handshake
import ChatServer.Proofs.Live.Hub
import ChatServer.Proofs.Live.Machine
import ChatServer.Proofs.Live.Moves
import ChatServer.Proofs.Live.Outboxes
import ChatServer.Proofs.Live.Queues
import ChatServer.Proofs.Live.Rest
import ChatServer.Proofs.Table
import ChatServer.Proofs.Text.IpAddress
import ChatServer.Proofs.Text.Lowercase
import ChatServer.Proofs.Toml.Document
import ChatServer.Proofs.Toml.Scan
import ChatServer.Proofs.Toml.Setting
import ChatServer.Proofs.User.Directory
import ChatServer.Proofs.User.Guests
import ChatServer.Proofs.User.Listings
import ChatServer.Proofs.Wire.Boundaries
import ChatServer.Proofs.Wire.CutOff
import ChatServer.Proofs.Wire.Frames
import ChatServer.Proofs.Wire.Grammar
import ChatServer.Proofs.Wire.Queue
import ChatServer.Proofs.Wire.Reading
import ChatServer.Proofs.Wire.RoundTrip
import ChatServer.Proofs.Wire.Snapshots
import ChatServer.Proofs.Wire.Truncation
import ChatServer.Proofs.World.Beside
import ChatServer.Proofs.World.Churn
import ChatServer.Proofs.World.ClaimedNames
import ChatServer.Proofs.World.Claiming
import ChatServer.Proofs.World.Disconnecting
import ChatServer.Proofs.World.Faults
import ChatServer.Proofs.World.Frames
import ChatServer.Proofs.World.Guests
import ChatServer.Proofs.World.Hooks
import ChatServer.Proofs.World.Joining
import ChatServer.Proofs.World.Keys
import ChatServer.Proofs.World.KnownRosters
import ChatServer.Proofs.World.Leaving
import ChatServer.Proofs.World.Listings
import ChatServer.Proofs.World.Naming
import ChatServer.Proofs.World.Observers
import ChatServer.Proofs.World.Operators
import ChatServer.Proofs.World.ReadingBack
import ChatServer.Proofs.World.Recipients
import ChatServer.Proofs.World.Registration
import ChatServer.Proofs.World.Requests
import ChatServer.Proofs.World.Runs
import ChatServer.Proofs.World.Separation
import ChatServer.Proofs.World.Serving
import ChatServer.Proofs.World.Sessions
import ChatServer.Proofs.World.Stale
import ChatServer.Proofs.World.Steps
import ChatServer.Proofs.World.Stopping
import ChatServer.Proofs.World.Traces
import ChatServer.Table
import ChatServer.Text.Blank
import ChatServer.Text.CaseData
import ChatServer.Text.Digits
import ChatServer.Text.IpAddress
import ChatServer.Text.Lowercase
import ChatServer.Toml.Date
import ChatServer.Toml.Document
import ChatServer.Toml.Item
import ChatServer.Toml.Number
import ChatServer.Toml.Quoted
import ChatServer.Toml.Scan
import ChatServer.Toml.Value
import ChatServer.User.Basic
import ChatServer.User.Service
import ChatServer.Wire.Code
import ChatServer.Wire.Error
import ChatServer.Wire.Frame
import ChatServer.Wire.Payload
import ChatServer.Wire.Utf8
import ChatServer.Wire.Value
import ChatServer.World

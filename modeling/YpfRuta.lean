import YpfRuta.Common.Operation
import YpfRuta.Lib.Keys
import YpfRuta.Actors.Messages
import YpfRuta.Actors.Account
import YpfRuta.Actors.Card
import YpfRuta.Actors.Router
import YpfRuta.Lib.Transition
import YpfRuta.Actors.Database
import YpfRuta.Actors.Pump
import YpfRuta.Actors.Local
import YpfRuta.Actors.Origin
import YpfRuta.Actors.Limits
import YpfRuta.Actors.Counting
import YpfRuta.Actors.CardFlow
import YpfRuta.Actors.AccountFlow
import YpfRuta.Actors.RouterFlow
import YpfRuta.Actors.Books
import YpfRuta.Actors.Completion
import YpfRuta.Actors.Started
import YpfRuta.Lib.Sums
import YpfRuta.Actors.Money
import YpfRuta.Actors.BillBook
import YpfRuta.Actors.Billing
import YpfRuta.Common.Message
import YpfRuta.Lib.Float32
import YpfRuta.Server.Handler
import YpfRuta.Server.Leader
import YpfRuta.Server.Replica
import YpfRuta.Server.Runtime
import YpfRuta.Cluster.System
import YpfRuta.Server.Turn
import YpfRuta.Cluster.Steady
import YpfRuta.Cluster.ReplicaStep
import YpfRuta.Cluster.LeaderStep
import YpfRuta.Cluster.Replication
import YpfRuta.Cluster.Order
import YpfRuta.Cluster.Failover
import YpfRuta.Actors.Balance
import YpfRuta.Cluster.Correlation
import YpfRuta.Server.Frame
import YpfRuta.Server.Granted
import YpfRuta.Server.Reconnect
import YpfRuta.Lib.Bytes
import YpfRuta.Network.Serialization
import YpfRuta.Network.Lengths
import YpfRuta.Network.Framing
import YpfRuta.Network.HandlerLoop
import YpfRuta.Server.Elections
import YpfRuta.Cluster.Bully
import YpfRuta.Server.Membership
import YpfRuta.Server.Outcome
import YpfRuta.Cluster.Wake
import YpfRuta.Cluster.Handover
import YpfRuta.Cluster.OpIds
import YpfRuta.Actors.Flight
import YpfRuta.Actors.Install
import YpfRuta.Server.Attempts
import YpfRuta.Server.Members
import YpfRuta.Lib.Utf8
import YpfRuta.Network.Deserialization
import YpfRuta.Network.Codec
import YpfRuta.Network.RoundTrip
import YpfRuta.Client.NodeClient
import YpfRuta.Client.Charges
import YpfRuta.Actors.Queries
import YpfRuta.Actors.Fragments
import YpfRuta.Cluster.Joins
import YpfRuta.Actors.Cuts
import YpfRuta.Network.Dialing
import YpfRuta.Actors.Gathering
import YpfRuta.Actors.Snapshots
import YpfRuta.Network.Legible
import YpfRuta.Cluster.Acks
import YpfRuta.Cluster.Promotion
import YpfRuta.Actors.Events
import YpfRuta.Network.Liveness
import YpfRuta.Lib.Lru
import YpfRuta.Network.Active
import YpfRuta.Network.Eviction
import YpfRuta.Client.Replies
import YpfRuta.Lib.Slots
import YpfRuta.Station.Bookkeeping
import YpfRuta.Cluster.Quorums
import YpfRuta.Actors.Taken
import YpfRuta.Actors.Replaced
import YpfRuta.Cluster.Catchup
import YpfRuta.Cluster.CaughtUp
import YpfRuta.Actors.Fifo
import YpfRuta.Station.Amount
import YpfRuta.Actors.Growth
import YpfRuta.Server.Rejoin
import YpfRuta.Actors.Serial
import YpfRuta.Lib.Pending
import YpfRuta.Actors.AccountOrder
import YpfRuta.Actors.Agreement
import YpfRuta.Actors.Isolation
import YpfRuta.Actors.Once
import YpfRuta.Actors.Turns
import YpfRuta.Admin.Administrator
import YpfRuta.Admin.Answers
import YpfRuta.Cluster.Databases
import YpfRuta.Cluster.StateMachine
import YpfRuta.Actors.Transfer
import YpfRuta.Cluster.Effects
import YpfRuta.Cluster.Service
import YpfRuta.Cluster.Linearizable
import YpfRuta.Cluster.Payloads
import YpfRuta.Cluster.Wire
import YpfRuta.Cluster.Settling
import YpfRuta.Client.Pumps
import YpfRuta.Network.Session
import YpfRuta.Client.Verdicts
import YpfRuta.Cluster.Clients
import YpfRuta.Fleet.System
import YpfRuta.Fleet.Verdicts

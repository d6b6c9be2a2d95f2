import Farsounder.Data.Transition
import Farsounder.Data.Ledger
import Farsounder.Data.Service
import Farsounder.Data.Linearization
import Farsounder.Data.Progress
import Farsounder.Data.Monitor
import Farsounder.Data.Wire
import Farsounder.Data.WireEncoding
import Farsounder.Data.WireMeaning
import Farsounder.Data.WireCodec
import Farsounder.Data.Blocks
import Farsounder.Data.Traversal
import Farsounder.Data.Words
import Farsounder.Data.Decimal
import Farsounder.Data.Binary64
import Farsounder.Types
import Farsounder.Proto
import Farsounder.Proto.Schema
import Farsounder.Conversions
import Farsounder.Calendar
import Farsounder.Timestamps
import Farsounder.Retraction
import Farsounder.Config
import Farsounder.Overlay
import Farsounder.BuildConfig
import Farsounder.Refusals
import Farsounder.History.Json
import Farsounder.History.Parse
import Farsounder.History.RoundTrip
import Farsounder.History.Shape
import Farsounder.History.Counts
import Farsounder.History.NullDepths
import Farsounder.Requests.Platform
import Farsounder.Requests
import Farsounder.Timeouts
import Farsounder.Requests.Exchange
import Farsounder.Requests.Concurrent
import Farsounder.Requests.Device
import Farsounder.Subscriber.Dispatch
import Farsounder.Broadcast
import Farsounder.Subscriber.Registration
import Farsounder.Subscriber.CallbackMutex
import Farsounder.Subscriber.CallbackAtomic
import Farsounder.Subscriber.ThreadPool
import Farsounder.Subscriber.PoolRun
import Farsounder.Subscriber.Wakeup
import Farsounder.Subscriber.Lifecycle
import Farsounder.Subscriber.Sockets
import Farsounder.Subscriber.System
import Farsounder.Subscriber.Steps
import Farsounder.Subscriber.Flight
import Farsounder.Subscriber.Control
import Farsounder.Subscriber.Delivery
import Farsounder.Subscriber.PoolHistory
import Farsounder.Subscriber.PoolMutex
import Farsounder.Subscriber.PoolAtomic
import Farsounder.Subscriber.Overtaking
import Farsounder.Subscriber.Calls
import Farsounder.Subscriber.Work
import Farsounder.Subscriber.Readiness
import Farsounder.Subscriber.Drain
import Farsounder.Subscriber.Order
import Farsounder.Subscriber.Isolation
import Farsounder.Subscriber.RunningFlag
import Farsounder.Subscriber.Joins
import Farsounder.Subscriber.Shutdown
import Farsounder.Subscriber.Passes
import Farsounder.Subscriber.Ownership
import Farsounder.Subscriber.Lifetimes
import Farsounder.Subscriber.Addresses
import Farsounder.Subscriber.Plans
import Farsounder.Subscriber.Network
import Farsounder.Subscriber.Inline
import Farsounder.Subscriber.Broadcasts
import Farsounder.Connectable
import Farsounder.History.Query

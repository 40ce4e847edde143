import Sawang.Foundation.Runs
import Sawang.Foundation.Json
import Sawang.Foundation.JsonText
import Sawang.Protocol
import Sawang.Environment
import Sawang.RespondTable
import Sawang.TaskKey
import Sawang.Board
import Sawang.Board.Step
import Sawang.Delivery
import Sawang.Foundation.History
import Sawang.Delivery.Step
import Sawang.Foundation.Line
import Sawang.Delivery.Conservation
import Sawang.Delivery.Termination
import Sawang.Proxy
import Sawang.Proxy.Layers
import Sawang.Board.Ledger
import Sawang.Board.Tasks
import Sawang.Board.Calls
import Sawang.Board.Flow
import Sawang.Board.MultiRespond
import Sawang.Board.SingleShot
import Sawang.Board.AtMostOnce
import Sawang.Board.Confirming
import Sawang.Board.Unsubscribe
import Sawang.Board.Unsubscribed
import Sawang.Proxy.Handshake
import Sawang.Proxy.Blocked
import Sawang.Proxy.Shutdown
import Sawang.RespondTable.Reference
import Sawang.Board.Recipients
import Sawang.TaskKey.Identity
import Sawang.Board.Precise
import Sawang.Board.RequestDrop
import Sawang.Proxy.Segment
import Sawang.Proxy.Answered
import Sawang.Proxy.Terminated
import Sawang.Consumer
import Sawang.Activation
import Sawang.Activation.Step
import Sawang.Activation.Failure
import Sawang.Activation.Attribution
import Sawang.Activation.System
import Sawang.Board.Awakes
import Sawang.Proxy.Consumers
import Sawang.Confvar
import Sawang.Confvar.Buffer
import Sawang.Confvar.Grammar
import Sawang.Confvar.Numbers
import Sawang.Confvar.History
import Sawang.Log
import Sawang.Log.Rotation
import Sawang.Startup
import Sawang.MainWait
import Sawang.Board.Rebuild
import Sawang.Proxy.Documents
import Sawang.Board.Drops
import Sawang.Proxy.LiveDrops
import Sawang.Foundation.RobustMutex
import Sawang.GonggoAlive
import Sawang.GonggoAlive.Step
import Sawang.GonggoAlive.Verdict
import Sawang.GonggoAlive.Removal
import Sawang.GonggoAlive.Retirement
import Sawang.Foundation.NamedStore
import Sawang.Proxy.Answers
import Sawang.Proxy.Handover
import Sawang.Proxy.Readable
import Sawang.Foundation.Descent
import Sawang.Board.Effort
import Sawang.Proxy.Settling
import Sawang.Board.Order
import Sawang.Proxy.Callbacks
import Sawang.Foundation.LockedObject
import Sawang.RespondTable.Statements
import Sawang.Queue.Statements
import Sawang.Proxy.Operations
import Sawang.Foundation.NearestPow
import Sawang.PtrArray
import Sawang.Activation.Ledger
import Sawang.Log.Statements
import Sawang.Confvar.Validation
import Sawang.Board.Origins
import Sawang.Board.Departures
import Sawang.Proxy.Served
import Sawang.Foundation.Custody
import Sawang.Work
import Sawang.GonggoAlive.LogLock
import Sawang.Proxy.Ending
import Sawang.Heap
import Sawang.Heap.Queued

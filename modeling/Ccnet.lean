import Ccnet.Foundation.Fault
import Ccnet.Foundation.Machine
import Ccnet.Foundation.Slice
import Ccnet.Foundation.Memory
import Ccnet.Foundation.ByteOrder
import Ccnet.Foundation.Numeral
import Ccnet.Foundation.OrderedSet
import Ccnet.Foundation.Framing
import Ccnet.Foundation.Ring
import Ccnet.Foundation.ExactCover
import Ccnet.Foundation.Ledger
import Ccnet.Foundation.Mailbox
import Ccnet.Foundation.Condition
import Ccnet.Foundation.Calendar
import Ccnet.Foundation.LowerBound
import Ccnet.Foundation.Attempt
import Ccnet.Base.Mutex
import Ccnet.Base.Atomicity
import Ccnet.Base.CountDownLatch
import Ccnet.Base.Thread
import Ccnet.Base.ThreadPool
import Ccnet.Base.Monitor
import Ccnet.Base.Stop
import Ccnet.Base.BoundedBlockingQueue
import Ccnet.Base.Date
import Ccnet.Base.TimeZone.Utc
import Ccnet.Base.TimeZone.LocalTime
import Ccnet.Base.TimeZone.ZoneFile
import Ccnet.Base.TimeZone.Lookup
import Ccnet.Base.LogStream.Convert
import Ccnet.Base.LogStream.LogStream
import Ccnet.Base.Logging.FormatTime
import Ccnet.Base.Logging.Logger
import Ccnet.Base.AsyncLogging
import Ccnet.Net.Buffer
import Ccnet.Net.Buffer.Integers
import Ccnet.Net.Buffer.ReadFd
import Ccnet.Net.Buffer.Shrink
import Ccnet.Net.EventLoop.FunctorQueue
import Ccnet.Net.EventLoop.EventLoop
import Ccnet.Net.EventLoop.Order
import Ccnet.Net.EventLoop.Wakeup
import Ccnet.Net.EventLoop.LoopThread
import Ccnet.Net.Timer.TimerQueue
import Ccnet.Net.Timer.Lifecycle
import Ccnet.Net.Timer.Operations
import Ccnet.Net.Timer.HandleRead
import Ccnet.Net.Timer.Ownership
import Ccnet.Net.Timer.Inversion
import Ccnet.Net.Timer.Arming
import Ccnet.Net.Timer.Cancellation
import Ccnet.Net.Timer.TimerSystem
import Ccnet.Net.Timer.Progress
import Ccnet.Net.Timer.Tick
import Ccnet.Net.Timer.TimerId
import Ccnet.Net.Poller
import Ccnet.Net.Registration
import Ccnet.Net.Connection.TcpConnection
import Ccnet.Net.Connection.Stream
import Ccnet.Net.Connection.Sending
import Ccnet.Net.Connection.Link
import Ccnet.Net.Connection.Shutdown
import Ccnet.Net.Connection.Control
import Ccnet.Net.Connection.Close
import Ccnet.Net.Connection.Destroy
import Ccnet.Net.Connection.FlowControl
import Ccnet.Net.Connection.Issued
import Ccnet.Net.Connection.ReadControl
import Ccnet.Net.Connection.Echo
import Ccnet.Net.Client.Connector
import Ccnet.Net.Client.Sockets
import Ccnet.Net.Client.Steps
import Ccnet.Net.Client.TcpClient
import Ccnet.Net.Client.Ordered
import Ccnet.Net.Client.Orderly
import Ccnet.Net.Server.TcpServer
import Ccnet.Net.Server.Lifetime
import Ccnet.Sudoku.Solver
import Ccnet.Sudoku.Matrix
import Ccnet.Sudoku.Cover
import Ccnet.Sudoku.Search
import Ccnet.Sudoku.Grid
import Ccnet.Sudoku.Construction
import Ccnet.Sudoku.Correctness
import Ccnet.Sudoku.Residual
import Ccnet.Sudoku.Undo
import Ccnet.Sudoku.ColumnChoice
import Ccnet.Sudoku.Server
import Ccnet.Sudoku.Client
import Ccnet.Sudoku.Service
import Ccnet.Sudoku.Answers

import FakeMuduo.Base.Machine
import FakeMuduo.Base.Checked
import FakeMuduo.Base.Text
import FakeMuduo.Base.Window
import FakeMuduo.Base.Bytes
import FakeMuduo.Base.Search
import FakeMuduo.Base.Scan
import FakeMuduo.Base.Fifo
import FakeMuduo.Base.BoundedFifo
import FakeMuduo.Base.OrderedSet
import FakeMuduo.Base.Serving
import FakeMuduo.Base.Slots
import FakeMuduo.Base.Repetition
import FakeMuduo.Base.Disk
import FakeMuduo.Net.Buffer
import FakeMuduo.Net.BufferInvariant
import FakeMuduo.Net.BufferIntegers
import FakeMuduo.Util.Log
import FakeMuduo.Net.BufferRead
import FakeMuduo.Net.BufferStorage
import FakeMuduo.Net.BufferAccess
import FakeMuduo.Util.LogBufferQueue
import FakeMuduo.Util.RingQueue
import FakeMuduo.Util.LogBufferQueueInvariant
import FakeMuduo.Util.LogFifo
import FakeMuduo.Util.LogProducers
import FakeMuduo.Util.LogProducersIndices
import FakeMuduo.Util.LogProducersInvariant
import FakeMuduo.Util.AsyncLogger
import FakeMuduo.Util.AsyncLoggerOrder
import FakeMuduo.Util.AsyncLoggerBuffers
import FakeMuduo.Util.AsyncLoggerInvariant
import FakeMuduo.Util.AsyncLoggerDelivery
import FakeMuduo.Util.AsyncLoggerMemory
import FakeMuduo.Util.TimeStamp
import FakeMuduo.Util.LogLine
import FakeMuduo.Util.LogLineRoundTrip
import FakeMuduo.Util.StdLogger
import FakeMuduo.Util.LogFile
import FakeMuduo.Util.AsyncLogFile
import FakeMuduo.Util.ThreadPool
import FakeMuduo.Util.ThreadPoolInvariant
import FakeMuduo.Net.Channel
import FakeMuduo.Net.Epoller
import FakeMuduo.Net.PolledInterest
import FakeMuduo.Net.ActiveChannels
import FakeMuduo.Net.ActiveChannelsInvariant
import FakeMuduo.Net.EventLoop
import FakeMuduo.Net.PendingFunctors
import FakeMuduo.Net.EventLoopThread
import FakeMuduo.Net.TcpConnection
import FakeMuduo.Net.TcpConnectionInvariant
import FakeMuduo.Net.Acceptor
import FakeMuduo.Net.AcceptorDescriptors
import FakeMuduo.Net.AcceptorRecovery
import FakeMuduo.Net.LogNeutrality
import FakeMuduo.Net.Connector
import FakeMuduo.Net.TcpClient
import FakeMuduo.Net.ConnectorInvariant
import FakeMuduo.Net.ConnectorRun
import FakeMuduo.Net.ConnectorBackoff
import FakeMuduo.Net.ClientStop
import FakeMuduo.Net.OutputStream
import FakeMuduo.Net.OutputNotices
import FakeMuduo.Net.CrossThreadSend
import FakeMuduo.Net.GracefulShutdown
import FakeMuduo.Net.Conversation
import FakeMuduo.Net.EchoPair
import FakeMuduo.Net.StateRace
import FakeMuduo.Net.TcpServer
import FakeMuduo.Net.ReadControl
import FakeMuduo.Net.ReadControlInvariant
import FakeMuduo.Net.Lifecycle
import FakeMuduo.Net.LifecycleTokens
import FakeMuduo.Net.LifecycleInvariant
import FakeMuduo.Net.LifecycleRun
import FakeMuduo.Net.LoadBalance
import FakeMuduo.Net.ServerDestruction
import FakeMuduo.Net.TimerQueue
import FakeMuduo.Net.TimerInvariant
import FakeMuduo.Net.TimerOwnership
import FakeMuduo.Net.TimerCancel
import FakeMuduo.Net.TimerTick
import FakeMuduo.Net.TimerPunctual
import FakeMuduo.Net.TimerRequests
import FakeMuduo.Net.TimerRequestsOrder
import FakeMuduo.Net.TimerfdInvariant
import FakeMuduo.Net.TimespecWords
import FakeMuduo.Http.HttpRequest
import FakeMuduo.Http.HttpContext
import FakeMuduo.Http.LineParser
import FakeMuduo.Http.Segmentation
import FakeMuduo.Http.HttpResponse
import FakeMuduo.Http.RequestText
import FakeMuduo.Http.RoundTrip
import FakeMuduo.Http.RequestLine
import FakeMuduo.Http.ParseOutcome
import FakeMuduo.Http.HttpServer
import FakeMuduo.Http.ResponseVersion
import FakeMuduo.Http.Dispatch
import FakeMuduo.Http.Exchange
import FakeMuduo.Http.FileServer
import FakeMuduo.Http.ResponseFraming

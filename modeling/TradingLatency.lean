import TradingLatency.Lib.CText
import TradingLatency.Lib.Run
import TradingLatency.Lib.Recvmsg
import TradingLatency.Lib.Ring
import TradingLatency.Lib.Spsc
import TradingLatency.Csv.Format
import TradingLatency.Csv.Join
import TradingLatency.Csv.Parsing
import TradingLatency.Csv.RoundTrip
import TradingLatency.Csv.Writer
import TradingLatency.Csv.JoinSpec
import TradingLatency.Csv.JoinRead
import TradingLatency.Csv.JoinTable
import TradingLatency.Csv.JoinOutput
import TradingLatency.Csv.JoinCorrect
import TradingLatency.Csv.Validation
import TradingLatency.Stats.Collector
import TradingLatency.Stats.Refinement
import TradingLatency.Stats.Analysis
import TradingLatency.Stats.Window
import TradingLatency.Stats.Options
import TradingLatency.Stats.Accounting
import TradingLatency.Stats.Agreement
import TradingLatency.Correlation
import TradingLatency.Receive
import TradingLatency.Server.Queue
import TradingLatency.Server.RoundTrip
import TradingLatency.Server.Requests
import TradingLatency.Server.Rows
import TradingLatency.Server.Correlated
import TradingLatency.Server.Fallback
import TradingLatency.Client.RoundTrip
import TradingLatency.Client.Replies
import TradingLatency.Client.SendLoop
import TradingLatency.Client.Window
import TradingLatency.Client.Drain
import TradingLatency.LockFree
import TradingLatency.Lib.Bytes
import TradingLatency.Lib.Inet
import TradingLatency.Lib.OnesComplement
import TradingLatency.AfXdp.Packet
import TradingLatency.AfXdp.PacketRoundTrip
import TradingLatency.AfXdp.TxFrames
import TradingLatency.AfXdp.RxFrames
import TradingLatency.AfXdp.Control
import TradingLatency.AfXdp.Listing
import TradingLatency.AfXdp.Replicator
import TradingLatency.Hft.Tracker
import TradingLatency.Lib.Duplex
import TradingLatency.Lib.Json
import TradingLatency.Hft.Client
import TradingLatency.Hft.Exchange
import TradingLatency.Hft.MockServer
import TradingLatency.Hft.Protocol
import TradingLatency.Hft.JavaClient
import TradingLatency.Hft.Warmup
import TradingLatency.Hft.Properties
import TradingLatency.AfXdp.Completions
import TradingLatency.AfXdp.FastPath
import TradingLatency.AfXdp.TradeMessage
import TradingLatency.AfXdp.Placement
import TradingLatency.Csv.JoinHeader
import TradingLatency.Csv.Quoting
import TradingLatency.Lib.Interpolation
import TradingLatency.Stats.Percentiles
import TradingLatency.Server.Totals
import TradingLatency.Hft.StringMath
import TradingLatency.Hft.JavaConfig
import TradingLatency.Hft.TextFrame
import TradingLatency.Hft.CppClient
import TradingLatency.Hft.CppReport
import TradingLatency.Hft.Robustness
import TradingLatency.Hft.TrackerAccounting
import TradingLatency.AfXdp.Benchmark
import TradingLatency.EndToEnd.RoundTrip
import TradingLatency.EndToEnd.RowsPairUp
import TradingLatency.Csv.LogJoin
import TradingLatency.EndToEnd.JoinedRun
import TradingLatency.Hft.CppWire
import TradingLatency.Hft.CppExchange
import TradingLatency.AfXdp.FeedLoop
import TradingLatency.Hft.PingClient

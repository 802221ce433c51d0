import AnalyticsTesting.Lib.Transition
import AnalyticsTesting.Lib.Ledger
import AnalyticsTesting.Generator.Metrics
import AnalyticsTesting.Generator.Payload
import AnalyticsTesting.Generator.LoadGen
import AnalyticsTesting.Generator.Proofs.Moves
import AnalyticsTesting.Config.Load
import AnalyticsTesting.Config.Proofs.Loaded
import AnalyticsTesting.Config.Proofs.Runnable
import AnalyticsTesting.Generator.Main
import AnalyticsTesting.Generator.Proofs.Accounting
import AnalyticsTesting.Generator.Proofs.Attribution
import AnalyticsTesting.Generator.Proofs.Ownership
import AnalyticsTesting.Generator.Proofs.Ranges
import AnalyticsTesting.Bench.Proofs.EndToEnd
import AnalyticsTesting.Bench.Proofs.Report
import AnalyticsTesting.Config.Proofs.Overlay
import AnalyticsTesting.Config.Proofs.Precedence
import AnalyticsTesting.Generator.Proofs.SampleStream
import AnalyticsTesting.Generator.Proofs.SampledRun
import AnalyticsTesting.Generator.Proofs.Schedule
import AnalyticsTesting.Bench.Proofs.MergeSafety
import AnalyticsTesting.Lib.Journal
import AnalyticsTesting.Lib.PyTime
import AnalyticsTesting.Monitoring.PipelineExporter
import AnalyticsTesting.Monitoring.Proofs.Liveness
import AnalyticsTesting.Monitoring.Proofs.VisibilityLag
import AnalyticsTesting.Bench.CustomerReport
import AnalyticsTesting.Bench.Proofs.CustomerReport
import AnalyticsTesting.Generator.LogsPayload
import AnalyticsTesting.Generator.Proofs.RecordStream
import AnalyticsTesting.Generator.Proofs.WireSize
import AnalyticsTesting.Bench.HostAgent
import AnalyticsTesting.Bench.Proofs.HostAgent
import AnalyticsTesting.Generator.Proofs.Abort
import AnalyticsTesting.Generator.Proofs.InflightBound
import AnalyticsTesting.Generator.Proofs.Shutdown
import AnalyticsTesting.Generator.Proofs.StopRule
import AnalyticsTesting.Bench.Proofs.Contiguity
import AnalyticsTesting.Lib.Scanner
import AnalyticsTesting.Scripts.Proofs.DuckdbExec
import AnalyticsTesting.Tests.Drain
import AnalyticsTesting.Tests.Proofs.Drain
import AnalyticsTesting.Lib.PyJson
import AnalyticsTesting.Scripts.CollectEnv
import AnalyticsTesting.Scripts.Proofs.CollectEnv
import AnalyticsTesting.Lib.Intervals
import AnalyticsTesting.Lib.Blocks
import AnalyticsTesting.Bench.Fragmentation
import AnalyticsTesting.Lib.NearestRank
import AnalyticsTesting.Generator.Proofs.Percentile
import AnalyticsTesting.Lib.RoundRobin
import AnalyticsTesting.Generator.CustomerPool
import AnalyticsTesting.Generator.Proofs.CustomerPool
import AnalyticsTesting.Lib.LeastSquares
import AnalyticsTesting.Bench.Proofs.Trend
import AnalyticsTesting.Generator.TokenSource
import AnalyticsTesting.Generator.Proofs.TokenSource
import AnalyticsTesting.Bench.Bottleneck
import AnalyticsTesting.Bench.Proofs.Bottleneck
import AnalyticsTesting.Config.Proofs.Advice
import AnalyticsTesting.Lib.Regex
import AnalyticsTesting.Lib.PyDict
import AnalyticsTesting.Bench.CompactorLog
import AnalyticsTesting.Bench.LogFormat
import AnalyticsTesting.Bench.Proofs.LogPatterns
import AnalyticsTesting.Bench.Proofs.CompactorLog
import AnalyticsTesting.Lib.Verdict
import AnalyticsTesting.Config.Readings
import AnalyticsTesting.Config.Proofs.Reporting
import AnalyticsTesting.Scripts.Proofs.Resplit
import AnalyticsTesting.Lib.Heap
import AnalyticsTesting.Config.Heap
import AnalyticsTesting.Config.Proofs.OverlayPaths
import AnalyticsTesting.Config.Proofs.Heap
import AnalyticsTesting.Lib.PyDecimal
import AnalyticsTesting.Monitoring.Proofs.Duration
import AnalyticsTesting.Lib.Deferred
import AnalyticsTesting.Lib.Histogram
import AnalyticsTesting.Generator.PromMetrics
import AnalyticsTesting.Generator.Proofs.PromMirror
import AnalyticsTesting.Lib.Files
import AnalyticsTesting.Monitoring.StateFile
import AnalyticsTesting.Monitoring.Proofs.StateFile
import AnalyticsTesting.Lib.Growth
import AnalyticsTesting.Bench.Proofs.HostRates
import AnalyticsTesting.Lib.RegexSub
import AnalyticsTesting.Lib.Template
import AnalyticsTesting.Scripts.RenderTemplate
import AnalyticsTesting.Scripts.Proofs.RenderTemplate
import AnalyticsTesting.Scripts.RunSql
import AnalyticsTesting.Scripts.Proofs.RunSql
import AnalyticsTesting.Lib.Lines
import AnalyticsTesting.Scripts.RunSlices
import AnalyticsTesting.Scripts.Proofs.RunSlices
import AnalyticsTesting.Scripts.Cfg
import AnalyticsTesting.Scripts.Proofs.Cfg
import AnalyticsTesting.Scripts.CredWatchdog
import AnalyticsTesting.Scripts.Proofs.CredWatchdog
import AnalyticsTesting.Tests.Recovery
import AnalyticsTesting.Tests.Proofs.Recovery
import AnalyticsTesting.Tests.Stress
import AnalyticsTesting.Tests.Proofs.Stress
import AnalyticsTesting.Lib.Means
import AnalyticsTesting.Tests.Soak
import AnalyticsTesting.Tests.Proofs.Soak
import AnalyticsTesting.Scripts.PidFile
import AnalyticsTesting.Scripts.Proofs.PidFile
import AnalyticsTesting.Lib.Choices
import AnalyticsTesting.Lib.Sampler
import AnalyticsTesting.Generator.Draws
import AnalyticsTesting.Generator.TxnDraws
import AnalyticsTesting.Generator.Proofs.Shares
import AnalyticsTesting.Generator.Proofs.Draws
import AnalyticsTesting.Generator.Proofs.TxnDraws
import AnalyticsTesting.Generator.Proofs.Sent
import AnalyticsTesting.Generator.Proofs.SentTxns

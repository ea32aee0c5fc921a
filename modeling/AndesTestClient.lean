import AndesTestClient.Library.Delimited
import AndesTestClient.Library.Separated
import AndesTestClient.Library.Decimal
import AndesTestClient.Library.Template
import AndesTestClient.Library.Imperative
import AndesTestClient.Library.Retry
import AndesTestClient.Library.Frame
import AndesTestClient.Library.Interleaving
import AndesTestClient.Library.Runs
import AndesTestClient.Library.ForkJoin
import AndesTestClient.Library.RingBuffer
import AndesTestClient.Library.RingInvariant
import AndesTestClient.Library.RingProgress
import AndesTestClient.Library.DrainedCounter
import AndesTestClient.Runtime
import AndesTestClient.Message
import AndesTestClient.Config
import AndesTestClient.ConfigReader
import AndesTestClient.Expansion
import AndesTestClient.Instances
import AndesTestClient.Templates
import AndesTestClient.GlobalDefaults
import AndesTestClient.ConnectionUrl
import AndesTestClient.Main
import AndesTestClient.InstanceIds
import AndesTestClient.Gauges
import AndesTestClient.MetricNames
import AndesTestClient.SimplePublisher
import AndesTestClient.TxPublishHandler
import AndesTestClient.Resend
import AndesTestClient.ExactlyOnce
import AndesTestClient.InterruptedRetry
import AndesTestClient.FailingClose
import AndesTestClient.DisruptorBasedPublisher
import AndesTestClient.PublisherThread
import AndesTestClient.Pacing
import AndesTestClient.TransactionalEvents
import AndesTestClient.TransactionalRun
import AndesTestClient.MessageIds
import AndesTestClient.Shutdown
import AndesTestClient.SimpleConsumer
import AndesTestClient.Setup
import AndesTestClient.ConsumerThread
import AndesTestClient.ForeignMessages
import AndesTestClient.OpenConnections
import AndesTestClient.Release
import AndesTestClient.Settlement
import AndesTestClient.LoopBounds
import AndesTestClient.Metrics
import AndesTestClient.Accounting
import AndesTestClient.EventPoints
import AndesTestClient.Delivery
import AndesTestClient.Termination
import AndesTestClient.Reporting
import AndesTestClient.Startup
import AndesTestClient.StartupRefinement
import AndesTestClient.Completion
import AndesTestClient.LastReports
import AndesTestClient.LeftHandlers
import AndesTestClient.AcceptedConfig

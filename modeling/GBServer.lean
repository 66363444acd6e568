import GBServer.BandwidthTarget
import GBServer.ConnectionLifetime
import GBServer.ConsumerIndex
import GBServer.ConsumerStatistics
import GBServer.DeviceRegistry
import GBServer.DigestContexts
import GBServer.EndpointTimes
import GBServer.ExtensionRouting
import GBServer.FailedRequests
import GBServer.Foundation.BlockHash
import GBServer.Foundation.CBuffers
import GBServer.Foundation.Deques
import GBServer.Foundation.Guards
import GBServer.Foundation.Iteration
import GBServer.Foundation.JsonText
import GBServer.Foundation.LengthPrefix
import GBServer.Foundation.MarkedUnits
import GBServer.Foundation.Metrics
import GBServer.Foundation.OrderedMap
import GBServer.Foundation.PostedTasks
import GBServer.Foundation.RateLimit
import GBServer.Foundation.Rounding
import GBServer.Foundation.Runs
import GBServer.Foundation.SerialNumber
import GBServer.Foundation.StreamGaps
import GBServer.Foundation.StreamParser
import GBServer.Foundation.Tickets
import GBServer.FrameAssembly
import GBServer.Gb28181Framing
import GBServer.Gb28181Receive
import GBServer.HlsRequests
import GBServer.HttpAnswers
import GBServer.HttpDigest
import GBServer.JitterBuffer
import GBServer.JitterConsumption
import GBServer.JsonRequests
import GBServer.JsonUtils
import GBServer.KeyFrameRequests
import GBServer.KeyFrames
import GBServer.LogQueue
import GBServer.LogRetention
import GBServer.LogRotation
import GBServer.Md5
import GBServer.MediaEvents
import GBServer.MediaInvariants
import GBServer.MediaRelay
import GBServer.MediaRequests
import GBServer.MediaRuns
import GBServer.MediaService
import GBServer.NackCompleteness
import GBServer.NackGenerator
import GBServer.NackRetransmission
import GBServer.NackRetries
import GBServer.NackSoundness
import GBServer.NackTrimming
import GBServer.NalRepackaging
import GBServer.NalStartCodes
import GBServer.OutputTimestamps
import GBServer.PacketRouting
import GBServer.PeerAddress
import GBServer.ProducerStatistics
import GBServer.ProducerTasks
import GBServer.PushSchedule
import GBServer.ReceiverReports
import GBServer.RegistryLiveness
import GBServer.RegistryTables
import GBServer.RtcConsumer
import GBServer.RtcInterface
import GBServer.RtcProducer
import GBServer.RtcService
import GBServer.RtpServerReopening
import GBServer.RtpServers
import GBServer.RtspInterleaved
import GBServer.RtspMessages
import GBServer.SenderReports
import GBServer.SessionClosing
import GBServer.SessionName
import GBServer.SessionStatistics
import GBServer.SessionTasks
import GBServer.SessionUrls
import GBServer.SinglePublisher
import GBServer.SipEvents
import GBServer.SipMessageBuffers
import GBServer.SipRegistrar
import GBServer.SipRegistration
import GBServer.SipServerOutcomes
import GBServer.SipServerRuns
import GBServer.SipServerTransactions
import GBServer.SipTotality
import GBServer.SipTransactionMatching
import GBServer.SrtpSessions
import GBServer.StatisticsLocks
import GBServer.StreamIds
import GBServer.StreamService
import GBServer.StringUtils
import GBServer.StunAuthentication
import GBServer.StunTimeouts
import GBServer.StunTransports
import GBServer.TransportSequence
import GBServer.Unregistration
import GBServer.UplinkRecovery
import GBServer.VideoPacketCache
import GBServer.ViewerConvergence
import GBServer.WebService
import GBServer.WebSocketLocks
import GBServer.WebSocketStats

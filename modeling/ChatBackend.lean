import ChatBackend.Services.Numbering
import ChatBackend.Services.LostClaims
import ChatBackend.Writer.Redelivery
import ChatBackend.Writer.BatchSplitting
import ChatBackend.Writer.Acknowledgements
import ChatBackend.Services.ConcurrentWriters
import ChatBackend.Services.SettledReplay
import ChatBackend.Realtime.PresenceTruth
import ChatBackend.Realtime.IndexConsistency
import ChatBackend.Realtime.RoomIsolation
import ChatBackend.Realtime.LiveFanout
import ChatBackend.Realtime.InboundFrames
import ChatBackend.Writer.BatchPipeline
import ChatBackend.Chats.DirectChats
import ChatBackend.Chats.ReadIsolation
import ChatBackend.Chats.Idempotency
import ChatBackend.Chats.LatestMessages
import ChatBackend.Chats.PageLimits
import ChatBackend.Chats.PostedChats
import ChatBackend.Chats.RoomActivity
import ChatBackend.Realtime.LimiterAnswers
import ChatBackend.Realtime.ExpiringCounters
import ChatBackend.Realtime.CleanupSafety
import ChatBackend.Realtime.SendReplies
import ChatBackend.Writer.CalmDrains
import ChatBackend.Services.OutboxProgress
import ChatBackend.Services.LiveHistory
import ChatBackend.Chats.CreatedChats
import ChatBackend.Chats.ChatAnswers
import ChatBackend.Writer.Settlements
import ChatBackend.Writer.CountedAttempts
import ChatBackend.Users.AccountCalls
import ChatBackend.Users.AccountRules
import ChatBackend.Users.AccountRuns
import ChatBackend.Users.AccountSteps
import ChatBackend.Users.Logins
import ChatBackend.Users.Tokens
import ChatBackend.Wire.CommandTexts
import ChatBackend.Wire.Deliveries
import ChatBackend.Wire.EventTexts
import ChatBackend.Foundation.ExpiringStores
import ChatBackend.Foundation.GrowingPages
import ChatBackend.Foundation.NumberedHits
import ChatBackend.Redis.ChannelPatterns
import ChatBackend.Redis.CachedMessages
import ChatBackend.Redis.Counters
import ChatBackend.Redis.FakeRedis
import ChatBackend.Redis.RestLimits
import ChatBackend.Wire.IsoTimes
import ChatBackend.Services.MessageOrigins
import ChatBackend.Realtime.ClientCommands
import ChatBackend.Chats.PublishedPosts
import ChatBackend.Realtime.MessageFrames
import ChatBackend.Realtime.ServerMetrics
import ChatBackend.System.Composition
import ChatBackend.System.GenuineMessages

import TriAI.Analysis.Gates
import TriAI.Analysis.Schedule
import TriAI.Catalog.Order
import TriAI.Catalog.Rescan
import TriAI.Chat.AttachmentListing
import TriAI.Chat.CancelInTime
import TriAI.Chat.CleanPrompts
import TriAI.Chat.KeptCode
import TriAI.Chat.PromptGate
import TriAI.Chat.TokenCost
import TriAI.Chat.ToolMessages
import TriAI.Chunk.CacheEviction
import TriAI.Chunk.CacheTransparency
import TriAI.Chunk.Fallback
import TriAI.Chunk.GgufAgreement
import TriAI.Chunk.PackCleanup
import TriAI.Chunk.WarmupOrder
import TriAI.Coding.FailedEdits
import TriAI.Coding.Independence
import TriAI.Coding.OpenPipes
import TriAI.Coding.Patches
import TriAI.Coding.WriteConfinement
import TriAI.Download.Cancellation
import TriAI.Download.Manager
import TriAI.Download.Redirects
import TriAI.Download.Retry
import TriAI.Download.SizePin
import TriAI.Engine.Invariant
import TriAI.Engine.Requests
import TriAI.Evidence.Isolation
import TriAI.Evidence.Retention
import TriAI.Evidence.StaysJson
import TriAI.Hixx.RingOrder
import TriAI.Http.OneResponse
import TriAI.Http.Registry
import TriAI.Http.Segmentation
import TriAI.Kernel.LockOrder
import TriAI.Kernel.Pins
import TriAI.Kernel.Residency
import TriAI.Mcp.Order
import TriAI.MiniModel.BusyEngine
import TriAI.MiniModel.DigestText
import TriAI.Monitor.Backoff
import TriAI.Observability.Redaction
import TriAI.Persistence.Concurrent
import TriAI.Planner.Monotone
import TriAI.Planner.PlannedStarts
import TriAI.Staging.RestoreAtomic
import TriAI.Supervisor.Deadline
import TriAI.Supervisor.Exclusion
import TriAI.Supervisor.Representation
import TriAI.Catalog.Startable
import TriAI.Kernel.Pressure
import TriAI.Moe.HitRate
import TriAI.Performance.Trigger
import TriAI.Speculative.Decoder
import TriAI.Monitor.Spacing
import TriAI.Speculative.Acceptance
import TriAI.Speculative.Drafts
import TriAI.Benchmark.Gates
import TriAI.Storage.ChunkPlan
import TriAI.Library.LastItems
import TriAI.Supervisor.StderrTail
import TriAI.Assistant
import TriAI.Http.Auth
import TriAI.Http.Connections
import TriAI.Kernel.Bridge
import TriAI.Learning

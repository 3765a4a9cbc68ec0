import PersonaRuntime.Collections.Table
import PersonaRuntime.Collections.WeakRegistry
import PersonaRuntime.Domain.Ids
import PersonaRuntime.Domain.Reason
import PersonaRuntime.Domain.Session
import PersonaRuntime.Machine.Basic
import PersonaRuntime.Machine.Mutation
import PersonaRuntime.Runtime.MediaTimeline
import PersonaRuntime.Runtime.TurnState
import PersonaRuntime.Domain.Theorems.OutputEvidence
import PersonaRuntime.Policy.Authorization
import PersonaRuntime.Policy.Publication
import PersonaRuntime.Policy.Theorems.Publication
import PersonaRuntime.Runtime.Theorems.TurnState
import PersonaRuntime.Domain.Persona
import PersonaRuntime.Domain.Profile
import PersonaRuntime.Machine.Threads
import PersonaRuntime.MediaWorker.Ledger
import PersonaRuntime.MediaWorker.Lifecycle
import PersonaRuntime.MediaWorker.Theorems.Edits
import PersonaRuntime.MediaWorker.Theorems.Evidence
import PersonaRuntime.MediaWorker.Theorems.Revocation
import PersonaRuntime.MediaWorker.Theorems.Senders
import PersonaRuntime.OwnerLab.Persistence
import PersonaRuntime.OwnerLab.Requests
import PersonaRuntime.OwnerLab.Theorems.Requests
import PersonaRuntime.OwnerLab.Theorems.VisitorSessions
import PersonaRuntime.Runtime.Authority
import PersonaRuntime.Runtime.Session
import PersonaRuntime.Runtime.Theorems.Session
import PersonaRuntime.Runtime.Theorems.Turns
import PersonaRuntime.Runtime.MediaSession
import PersonaRuntime.Runtime.MediaDelivery
import PersonaRuntime.Runtime.Theorems.MediaDelivery
import PersonaRuntime.Runtime.Theorems.MediaTimeline
import PersonaRuntime.Domain.ProfileReview
import PersonaRuntime.OwnerLab.OwnerContext
import PersonaRuntime.OwnerLab.Theorems.OwnerContext
import PersonaRuntime.OwnerLab.RemoteMediaRevocation
import PersonaRuntime.OwnerLab.Theorems.RemoteMediaRevocation
import PersonaRuntime.OwnerLab.FileStore
import PersonaRuntime.OwnerLab.Theorems.Persistence
import PersonaRuntime.Machine.Durable
import PersonaRuntime.OwnerLab.SecureStore
import PersonaRuntime.OwnerLab.Theorems.SecureStore
import PersonaRuntime.OwnerLab.Theorems.SecureStoreDelete
import PersonaRuntime.Evaluation.SessionEvidence
import PersonaRuntime.OwnerLab.Evidence
import PersonaRuntime.Machine.Loop
import PersonaRuntime.Evaluation.Theorems.SnapshotChecks
import PersonaRuntime.Evaluation.Theorems.SupportingCapture
import PersonaRuntime.Evaluation.Theorems.AutomationCapture
import PersonaRuntime.Evaluation.Theorems.SessionEvidence
import PersonaRuntime.Collections.Index
import PersonaRuntime.OwnerLab.Theorems.Evidence
import PersonaRuntime.OwnerLab.Theorems.EvidenceRecorder
import PersonaRuntime.Runtime.Theorems.Quiescence
import PersonaRuntime.Runtime.Theorems.Cancellation
import PersonaRuntime.Domain.Theorems.Profile
import PersonaRuntime.OwnerLab.WorkspaceCalls
import PersonaRuntime.OwnerLab.Theorems.WorkspaceCalls
import PersonaRuntime.Text.Sentences
import PersonaRuntime.OwnerLab.ReplayAuthority
import PersonaRuntime.OwnerLab.Theorems.ReplayAuthority
import PersonaRuntime.OwnerLab.VoiceCommandScheduler
import PersonaRuntime.OwnerLab.Theorems.VoiceCommandScheduler
import PersonaRuntime.Domain.Readiness
import PersonaRuntime.OwnerLab.Readiness
import PersonaRuntime.OwnerLab.Theorems.Readiness
import PersonaRuntime.OwnerLab.Theorems.ReadinessProtocol
import PersonaRuntime.Collections.Rank
import PersonaRuntime.Evaluation.Theorems.SessionTotals
import PersonaRuntime.Evaluation.Theorems.SessionAggregate
import PersonaRuntime.OwnerLab.DiagnosticConversation
import PersonaRuntime.OwnerLab.Theorems.DiagnosticConversation
import PersonaRuntime.OwnerLab.VisitorConversation
import PersonaRuntime.Runtime.Theorems.Revocation
import PersonaRuntime.OwnerLab.Theorems.VisitorConversation
import PersonaRuntime.Integration.Provider
import PersonaRuntime.Integration.DeepgramLive
import PersonaRuntime.OwnerLab.VoiceStt
import PersonaRuntime.OwnerLab.Theorems.VoiceStt
import PersonaRuntime.Machine.EventStream
import PersonaRuntime.Integration.LlmStream
import PersonaRuntime.Integration.Anthropic
import PersonaRuntime.Integration.Gemini
import PersonaRuntime.Integration.Theorems.LlmStream
import PersonaRuntime.OwnerLab.VoicePlayback
import PersonaRuntime.OwnerLab.Theorems.VoicePlayback
import PersonaRuntime.OwnerLab.RemoteCleanup
import PersonaRuntime.OwnerLab.Theorems.RemoteCleanup
import PersonaRuntime.Collections.Rounding
import PersonaRuntime.Integration.Audio
import PersonaRuntime.Collections.Bytes
import PersonaRuntime.Integration.Wav
import PersonaRuntime.Integration.Theorems.Wav
import PersonaRuntime.Machine.ReadLoop
import PersonaRuntime.Integration.PcmStream
import PersonaRuntime.OwnerLab.VoiceUpload
import PersonaRuntime.Integration.Theorems.PcmStream
import PersonaRuntime.OwnerLab.Theorems.VoiceUpload
import PersonaRuntime.Integration.GeneratedAudio
import PersonaRuntime.Integration.Theorems.GeneratedAudio
import PersonaRuntime.Runtime.AvatarDelivery
import PersonaRuntime.Runtime.Theorems.AvatarDelivery
import PersonaRuntime.Text.Blocks
import PersonaRuntime.Text.Trim
import PersonaRuntime.OwnerLab.ConversationInstructions
import PersonaRuntime.Text.Json
import PersonaRuntime.Text.JsonCodec
import PersonaRuntime.Evaluation.Golden
import PersonaRuntime.Evaluation.Binding
import PersonaRuntime.Evaluation.ExitEvidence
import PersonaRuntime.Evaluation.SupportingPreflight
import PersonaRuntime.Evaluation.SessionBinding
import PersonaRuntime.Evaluation.RuntimeEvidence
import PersonaRuntime.Evaluation.ExitAssembly
import PersonaRuntime.Evaluation.Theorems.ExitAssembly
import PersonaRuntime.OwnerLab.VoicePhrase
import PersonaRuntime.OwnerLab.Theorems.VoicePhrase
import PersonaRuntime.OwnerLab.VoiceStream
import PersonaRuntime.OwnerLab.Theorems.VoiceStream
import PersonaRuntime.OwnerLab.Theorems.ConversationInstructions
import PersonaRuntime.Runtime.Theorems.AudioTimeline
import PersonaRuntime.Runtime.CancellableTcpWriter
import PersonaRuntime.Runtime.Theorems.CancellableTcpWriter
import PersonaRuntime.Text.Lowercase
import PersonaRuntime.Evaluation.Theorems.Golden
import PersonaRuntime.Machine.Triple
import PersonaRuntime.OwnerLab.Migration
import PersonaRuntime.OwnerLab.Theorems.Migration
import PersonaRuntime.Text.Utf8
import PersonaRuntime.Integration.LineFraming
import PersonaRuntime.Integration.Theorems.LineFraming
import PersonaRuntime.Integration.OpenAiCompatible
import PersonaRuntime.Integration.Theorems.OpenAiCompatible
import PersonaRuntime.Integration.Theorems.CutOff
import PersonaRuntime.OwnerLab.VoiceTurn
import PersonaRuntime.OwnerLab.Theorems.VoiceTurn
import PersonaRuntime.Capture.Theorems.Interview
import PersonaRuntime.OwnerLab.Theorems.OwnerCapture
import PersonaRuntime.Evaluation.Theorems.ExitAgreement
import PersonaRuntime.Evaluation.Theorems.SupportingScaffold
import PersonaRuntime.Evaluation.Theorems.ExitGate
import PersonaRuntime.Evaluation.Theorems.ExitVerification

import OmniTranslate.SentenceLaws
import OmniTranslate.SubtitleWorker
import OmniTranslate.SubtitleSync
import OmniTranslate.StatusLaws
import OmniTranslate.StopLaws
import OmniTranslate.StreamLedger
import OmniTranslate.CueLaws
import OmniTranslate.TurnLaws
import OmniTranslate.OwnerLaws
import OmniTranslate.ResponseLifecycle
import OmniTranslate.SealLaws
import OmniTranslate.PcmStreams
import OmniTranslate.PermitLaws
import OmniTranslate.VirtualMicLaws
import OmniTranslate.ProcessLoopback
import OmniTranslate.CueStoreLaws
import OmniTranslate.TaskLaws
import OmniTranslate.OmniSessionLaws
import OmniTranslate.LiveTranslateTexts
import OmniTranslate.WatchCertificate
import OmniTranslate.WatchSeal
import OmniTranslate.SubtitleSlotLaws
import OmniTranslate.NativeResponseLaws
import OmniTranslate.DialogueRounds
import OmniTranslate.NativePlaybackLaws
import OmniTranslate.AudioStreams
import OmniTranslate.HistoryPlaybackLaws
import OmniTranslate.CueNewest
import OmniTranslate.SourceDeliveryLaws
import OmniTranslate.EchoRenderLaws
import OmniTranslate.StrictTerminals
import OmniTranslate.AudioReplay
import OmniTranslate.SpeechOutcomes
import OmniTranslate.WarmRouteLaws
import OmniTranslate.CredentialProofs
import OmniTranslate.ConfigSyncLaws
import OmniTranslate.SpeechPlaybackLaws
import OmniTranslate.TranslatedAudioLaws
import OmniTranslate.DispatchOrder
import OmniTranslate.SchedulerRefusals
import OmniTranslate.CaptionLimits
import OmniTranslate.ChatStreamLaws
import OmniTranslate.PrimaryTranslationLaws
import OmniTranslate.ConfigRepositoryLaws
import OmniTranslate.ProviderAgreement
import OmniTranslate.OmniBridgeSessions
import OmniTranslate.SlotWrites
import OmniTranslate.ProviderAudioPacer
import OmniTranslate.RenderSubmitTracker
import OmniTranslate.AudioFramePacer
import OmniTranslate.SpeechArchive
import OmniTranslate.SentenceSpacing
import OmniTranslate.LogPipeline
import OmniTranslate.HistoryRetention

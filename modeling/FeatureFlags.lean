import FeatureFlags.Console.Answer
import FeatureFlags.Main
import FeatureFlags.Client.Control
import FeatureFlags.Client.SharedCache
import FeatureFlags.Proofs.Service.Decision
import FeatureFlags.Proofs.Cache.KeyText
import FeatureFlags.Proofs.Text.Utf8
import FeatureFlags.Proofs.Cache.StoredForm
import FeatureFlags.Proofs.Service.Recency
import FeatureFlags.Proofs.Service.Effects
import FeatureFlags.Proofs.Cache.RecencyList
import FeatureFlags.Proofs.Push.Chunking
import FeatureFlags.Proofs.Cache.Decoded
import FeatureFlags.Proofs.Cache.FolderSlots
import FeatureFlags.Proofs.Cache.Persistence
import FeatureFlags.Proofs.Cache.Eviction
import FeatureFlags.Proofs.Cache.Truncation
import FeatureFlags.Proofs.Service.Revalidation
import FeatureFlags.Proofs.Client.Generations
import FeatureFlags.Proofs.Client.Invalidation
import FeatureFlags.Proofs.Cache.Canonical
import FeatureFlags.Proofs.Push.LineLimit
import FeatureFlags.Proofs.Client.FlagFetch
import FeatureFlags.Proofs.Number.Finite
import FeatureFlags.Proofs.Json.Numbers
import FeatureFlags.Proofs.Client.PushRefresh
import FeatureFlags.Proofs.Flag.RunningMax
import FeatureFlags.Proofs.Client.RefetchIdentity
import FeatureFlags.Proofs.Client.FlushCounts
import FeatureFlags.Proofs.Web.FormRoundTrip
import FeatureFlags.Proofs.Web.HostText
import FeatureFlags.Proofs.Web.QueryStart
import FeatureFlags.Proofs.Cache.RequestKey
import FeatureFlags.Proofs.Cache.Varying
import FeatureFlags.Proofs.Cache.Expiry
import FeatureFlags.Proofs.Json.Reading
import FeatureFlags.Proofs.Flag.ReadBack
import FeatureFlags.Proofs.Cache.UpsertHistory
import FeatureFlags.Proofs.Config.DotPath

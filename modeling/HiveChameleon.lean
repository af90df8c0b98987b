import HiveChameleon.Lib.Run
import HiveChameleon.Lib.Table
import HiveChameleon.Lib.Prog
import HiveChameleon.Gateway.Protocol
import HiveChameleon.Projector.Model
import HiveChameleon.Projector.Validator
import HiveChameleon.Projector.Tables
import HiveChameleon.Projector.Triggers
import HiveChameleon.Projector.Materialize
import HiveChameleon.Projector.Store
import HiveChameleon.Projector.StoreSpec
import HiveChameleon.Projector.Invariant
import HiveChameleon.Projector.Projector
import HiveChameleon.Projector.Safety
import HiveChameleon.Projector.Concurrent
import HiveChameleon.Projector.Events
import HiveChameleon.Nakama.CasualRound
import HiveChameleon.Nakama.RoundInvariant
import HiveChameleon.Nakama.TerminalResult
import HiveChameleon.Nakama.Recording
import HiveChameleon.Nakama.Database
import HiveChameleon.Nakama.Commit
import HiveChameleon.Publisher.Tables
import HiveChameleon.Publisher.Store
import HiveChameleon.Publisher.System
import HiveChameleon.Publisher.Reconcile
import HiveChameleon.Publisher.Quiet
import HiveChameleon.Lib.HashChain
import HiveChameleon.Projector.Failures
import HiveChameleon.Projector.Finality
import HiveChameleon.Nakama.RoundGuarantees
import HiveChameleon.Publisher.DeadEnds
import HiveChameleon.Gateway.Policy
import HiveChameleon.Gateway.Signer
import HiveChameleon.Gateway.SignerIdempotency
import HiveChameleon.Projector.HafahSource
import HiveChameleon.Projector.StableReads
import HiveChameleon.Projector.Sound
import HiveChameleon.Projector.Storable
import HiveChameleon.Provisioning.Repository
import HiveChameleon.Provisioning.Service
import HiveChameleon.Auth.Sessions
import HiveChameleon.Auth.Transactions
import HiveChameleon.Auth.SessionSafety
import HiveChameleon.Provisioning.Stages
import HiveChameleon.Provisioning.Safety
import HiveChameleon.Nakama.LobbyTables
import HiveChameleon.Nakama.LobbyStore
import HiveChameleon.Nakama.LobbyViews
import HiveChameleon.Nakama.LobbyConsistency
import HiveChameleon.Nakama.LobbyGuarantees
import HiveChameleon.Provisioning.Calls
import HiveChameleon.Auth.Identities
import HiveChameleon.Provisioning.Onboarding
import HiveChameleon.Provisioning.Disclosure
import HiveChameleon.Auth.Rotation
import HiveChameleon.Auth.Login
import HiveChameleon.Auth.Provenance
import HiveChameleon.Lib.Succession
import HiveChameleon.Projector.ResultChain
import HiveChameleon.Projector.Calls
import HiveChameleon.Projector.Collectibles
import HiveChameleon.Gateway.HiveGateway
import HiveChameleon.Publisher.Worker
import HiveChameleon.Publisher.Journal
import HiveChameleon.Publisher.Fencing
import HiveChameleon.Publisher.Conservation
import HiveChameleon.Lib.NullLogic
import HiveChameleon.Roles.Tables
import HiveChameleon.Roles.Evidence
import HiveChameleon.Lib.Optimistic
import HiveChameleon.Nakama.SessionBridge
import HiveChameleon.Nakama.BridgeReplay
import HiveChameleon.Nakama.EnsureMatch
import HiveChameleon.Issuer.CollectibleIssuer
import HiveChameleon.Issuer.Truthful
import HiveChameleon.Lib.Snapshot
import HiveChameleon.Lib.Sorting
import HiveChameleon.Nakama.LobbyVersions
import HiveChameleon.Integrity.FrozenEvidence
import HiveChameleon.Gateway.CanonicalJson
import HiveChameleon.Gateway.JsonParse
import HiveChameleon.Gateway.Zod
import HiveChameleon.Gateway.EventSchemas
import HiveChameleon.Gateway.EventReading
import HiveChameleon.Gateway.EventEncoding
import HiveChameleon.Projector.SignerAgreement
import HiveChameleon.Gateway.JsonSize
import HiveChameleon.Gateway.SchemaAcceptance
import HiveChameleon.Publisher.PublicMatch
import HiveChameleon.Nakama.StoredResult
import HiveChameleon.Gateway.PlainTexts
import HiveChameleon.Publisher.RecordedTexts
import HiveChameleon.Publisher.StoredCandidate
import HiveChameleon.Publisher.Expressible
import HiveChameleon.Nakama.RoundTicks
import HiveChameleon.Nakama.ShotAccounting
import HiveChameleon.Nakama.HiddenSlots
import HiveChameleon.Nakama.LobbyCache
import HiveChameleon.Nakama.RoundRoles
import HiveChameleon.Nakama.Nominations
import HiveChameleon.Nakama.CommittedRounds
import HiveChameleon.Provisioning.Resumption
import HiveChameleon.Publisher.BatchBuilder
import HiveChameleon.Publisher.BatchPlan
import HiveChameleon.Publisher.Blame
import HiveChameleon.Projector.Reorg
import HiveChameleon.Projector.Pagination
import HiveChameleon.Projector.MemoryStore
import HiveChameleon.Projector.Sources
import HiveChameleon.Projector.TwinStores
import HiveChameleon.Lib.Shuffle
import HiveChameleon.Nakama.FairShuffle
import HiveChameleon.Auth.PostingAuthority
import HiveChameleon.Nakama.EnsureFailures
import HiveChameleon.Lib.Base64Url
import HiveChameleon.Lib.Digits
import HiveChameleon.Nakama.CompactUuid
import HiveChameleon.Nakama.ConfigurationPatch
import HiveChameleon.Realtime.BridgeAssertion
import HiveChameleon.Auth.DisclosureFlags
import HiveChameleon.Client.RealtimeConnection
import HiveChameleon.Projector.ChainOrder
import HiveChameleon.Nakama.Membership
import HiveChameleon.Nakama.Presences
import HiveChameleon.Lib.Told
import HiveChameleon.Projector.Reported
import HiveChameleon.Projector.Provenance
import HiveChameleon.Projector.CollectibleProvenance
import HiveChameleon.Projector.ExactlyOnce
import HiveChameleon.Lib.Ledger
import HiveChameleon.Projector.ForkHistory
import HiveChameleon.Publisher.PublishedFinal
import HiveChameleon.Auth.Tokens
import HiveChameleon.Lib.Rely
import HiveChameleon.Database.PooledTransactions
import HiveChameleon.Lib.Traces
import HiveChameleon.Gateway.SignerClient
import HiveChameleon.Gateway.Broadcasting
import HiveChameleon.Projector.CatchUp
import HiveChameleon.Lib.Implement
import HiveChameleon.Projector.HafahHttp
import HiveChameleon.Projector.HttpProjection
import HiveChameleon.Projector.Identified

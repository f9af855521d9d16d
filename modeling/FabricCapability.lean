import FabricCapability.Verified.ByteCodec
import FabricCapability.Verified.Canonical
import FabricCapability.Verified.ChunkedInput
import FabricCapability.Verified.StrictOrder
import FabricCapability.Verified.OrderFree
import FabricCapability.Verified.KeyedList
import FabricCapability.Verified.Shuffles
import FabricCapability.Verified.PartitionPoint
import FabricCapability.Verified.Growth
import FabricCapability.Verified.Recency
import FabricCapability.Verified.Delimited
import FabricCapability.Verified.Sizes
import FabricCapability.Verified.Runs
import FabricCapability.Verified.Restores
import FabricCapability.Verified.LockedCode
import FabricCapability.Verified.SharedMutex
import FabricCapability.Verified.Workers
import FabricCapability.Verified.Kleene
import FabricCapability.Ports.Error
import FabricCapability.Ports.Ids
import FabricCapability.Ports.Encoding
import FabricCapability.Ports.IdCodec
import FabricCapability.Ports.Digest
import FabricCapability.Ports.Value
import FabricCapability.Ports.ValueFactories
import FabricCapability.Ports.ValueCodec
import FabricCapability.Ports.ValueRoundTrip
import FabricCapability.Ports.ValueDelimited
import FabricCapability.Ports.CanonicalDecoding
import FabricCapability.Ports.Evidence
import FabricCapability.Ports.Records
import FabricCapability.Ports.Wire
import FabricCapability.Ports.RequestRoundTrip
import FabricCapability.Ports.ResultWire
import FabricCapability.Ports.ResultRoundTrip
import FabricCapability.Ports.FrameWire
import FabricCapability.Ports.CanonicalSchema
import FabricCapability.Ports.Schema
import FabricCapability.Ports.AcceptedValues
import FabricCapability.Ports.RegistryState
import FabricCapability.Ports.Resolution
import FabricCapability.Ports.EvidenceMutation
import FabricCapability.Ports.Publish
import FabricCapability.Ports.Operations
import FabricCapability.Ports.Queries
import FabricCapability.Ports.StoreFormat
import FabricCapability.Ports.StoreRoundTrip
import FabricCapability.Ports.Persistence
import FabricCapability.Ports.Runs
import FabricCapability.Ports.StorePayloads
import FabricCapability.Ports.Frames
import FabricCapability.Ports.Fencing
import FabricCapability.Ports.PublishSpec
import FabricCapability.Ports.EntityRules
import FabricCapability.Ports.ClaimChecks
import FabricCapability.Ports.SchemaRuns
import FabricCapability.Ports.EntryRules
import FabricCapability.Ports.OptimisticLocking
import FabricCapability.Ports.Restart
import FabricCapability.Ports.Deployments
import FabricCapability.Ports.Retirement
import FabricCapability.Ports.Currency
import FabricCapability.Ports.SourceOrder
import FabricCapability.Ports.EntrySteps
import FabricCapability.Ports.EvidenceOrder
import FabricCapability.Ports.Confinement
import FabricCapability.Ports.Replacement
import FabricCapability.Ports.ImpliedAbsence
import FabricCapability.Ports.ResolutionRule
import FabricCapability.Ports.Isolation
import FabricCapability.Ports.SetContent
import FabricCapability.Ports.AtMostOnce
import FabricCapability.Ports.EpochAdvance
import FabricCapability.Ports.LiveEvidence
import FabricCapability.Ports.FenceEffect
import FabricCapability.Ports.ReplayAnswers
import FabricCapability.Ports.Retries
import FabricCapability.Ports.SetTruth
import FabricCapability.Ports.Snapshots
import FabricCapability.Ports.SnapshotCurrency
import FabricCapability.Ports.EvidenceRoom
import FabricCapability.Ports.Bounds
import FabricCapability.Ports.LoadBounds
import FabricCapability.Ports.Starvation
import FabricCapability.Ports.ArrivalOrder
import FabricCapability.Ports.ClaimRuns
import FabricCapability.Ports.ClaimOrder
import FabricCapability.Ports.NewestRecord
import FabricCapability.Ports.FirstClaim
import FabricCapability.Ports.ComposedResults
import FabricCapability.Ports.Answers
import FabricCapability.Ports.RejectionTexts
import FabricCapability.Ports.ControlWire
import FabricCapability.Ports.Replies
import FabricCapability.Ports.ValueText
import FabricCapability.Ports.Requirements
import FabricCapability.Ports.Calls
import FabricCapability.Ports.Batches
import FabricCapability.Ports.Journals
import FabricCapability.Ports.SnapshotDiffs
import FabricCapability.Ports.IndexMoves
import FabricCapability.Ports.IndexCoherence
import FabricCapability.Ports.Idempotence
import FabricCapability.Ports.Coordinator
import FabricCapability.Ports.CoordinatorRules
import FabricCapability.Ports.AckAnswers
import FabricCapability.Ports.ScopeIsolation
import FabricCapability.Ports.Disconnects
import FabricCapability.Ports.DurableAcks
import FabricCapability.Ports.CrashSafety
import FabricCapability.Ports.DiffEntries
import FabricCapability.Ports.SetHistory
import FabricCapability.Ports.DiffTruth
import FabricCapability.Ports.ValueIdentity
import FabricCapability.Ports.CollectionValues
import FabricCapability.Ports.DeclaredBounds
import FabricCapability.Ports.RequirementTrees
import FabricCapability.Ports.RequirementReports
import FabricCapability.Ports.RequirementTruth
import FabricCapability.Ports.EvaluationReads
import FabricCapability.Ports.LinearReads
import FabricCapability.Ports.UpdateForms
import FabricCapability.Ports.PublisherClient
import FabricCapability.Ports.RejectionCodes
import FabricCapability.Ports.RefusalCodes
import FabricCapability.Ports.ExpectedGenerations
import FabricCapability.Ports.ClientTracking
import FabricCapability.Ports.IdGrammar
import FabricCapability.Ports.QueryText
import FabricCapability.Ports.QuantityText
import FabricCapability.Ports.QueryLeaves
import FabricCapability.Verified.Blocks
import FabricCapability.Verified.Sha2
import FabricCapability.Ports.DigestStandard
import FabricCapability.Verified.Crc
import FabricCapability.Ports.Corruption
import FabricCapability.Ports.StoreContents
import FabricCapability.Ports.StoreReports
import FabricCapability.Ports.StoredIdentity
import FabricCapability.Ports.ReadableStores
import FabricCapability.Ports.StoredCommits
import FabricCapability.Ports.Stamps
import FabricCapability.Ports.Commutation
import FabricCapability.Ports.Views
import FabricCapability.Ports.EntityDiffs
import FabricCapability.Ports.Explanations
import FabricCapability.Ports.DigestBinding
import FabricCapability.Ports.Traces
import FabricCapability.Ports.Synthetic
import FabricCapability.Ports.SyntheticFabric

import FabricCapability.Verified.ByteCodec

/-!
# Error codes and outcomes

Translation of `include/fabric/capability/error.hpp` and `src/error.cpp`: the
machine-readable failure classification, the structured `Error` and the
`Outcome` carrier.  An `Outcome<T>` holds a value or an error, which is
`Except Error T` here.

Text is a list of bytes throughout, because the identifiers, values and files of
the source are byte strings and not all of them are valid UTF-8.  `txt` writes a
literal of the source down as its bytes.
-/

namespace FabricCapability.Ports

/-- A `std::string`, `std::string_view` or byte buffer of the source. -/
abbrev Bytes := List UInt8

/-- The bytes of a string literal of the source. -/
def txt (literal : String) : Bytes := literal.toUTF8.data.toList

/-- `std::to_string` of an unsigned number. -/
def decimal (n : Nat) : Bytes := txt (toString n)

/-- Machine readable failure classification. -/
inductive ErrorCode where
  | ok
  | invalidArgument
  | malformedIdentifier
  | malformedEncoding
  | malformedValue
  | unknownNamespace
  | unknownCapability
  | unknownEnumDomain
  | unsupportedValueKind
  | schemaViolation
  | valueTypeMismatch
  | valueOutOfRange
  | valueContradiction
  | valueNotCanonical
  | duplicateValue
  | emptyCollection
  | tooManyItems
  | textTooLong
  | payloadTooLarge
  | arithmeticOverflow
  | nestingTooDeep
  | unknownEntity
  | unknownEntityGeneration
  | entityGenerationStale
  | entityGenerationSuperseded
  | capabilitySetGenerationStale
  | capabilitySetGenerationMismatch
  | evidenceGenerationStale
  | sourceGenerationStale
  | unknownPublisher
  | unknownAuthorityScope
  | unauthorizedPublisher
  | authorityScopeViolation
  | publicationModeNotAuthorized
  | provenanceNotAuthorized
  | durablePublicationNotAuthorized
  | exclusivityRequired
  | workerBootUnknown
  | workerBootStale
  | workerBootFenced
  | coordinatorEpochStale
  | coordinatorEpochUnknown
  | duplicateClaim
  | conflictingClaim
  | claimCountExceeded
  | evidenceLimitExceeded
  | staleReplay
  | duplicateAttemptConflict
  | entityInvalidated
  | entityGenerationAdvanceRequired
  | notFound
  | persistencePathInvalid
  | persistenceIoFailure
  | persistenceFormatInvalid
  | persistenceVersionUnsupported
  | persistenceIntegrityFailure
  | persistenceCorrupt
  | persistenceDuplicateRecord
  | persistenceLimitExceeded
  | transportUnavailable
  | transportFailure
  | transportClosed
  | frameMalformed
  | frameTooLarge
  | frameVersionUnsupported
  | frameIntegrityFailure
  | frameTrailingBytes
  | frameTypeUnknown
  | frameStateViolation
  | discoveryUnavailable
  | discoveryFailed
  | unsupported
  | internalFailure
  deriving DecidableEq, Repr

/-- Stable lower-case name of a failure code. -/
def errorCodeName : ErrorCode → Bytes
  | .ok => txt "ok"
  | .invalidArgument => txt "invalid-argument"
  | .malformedIdentifier => txt "malformed-identifier"
  | .malformedEncoding => txt "malformed-encoding"
  | .malformedValue => txt "malformed-value"
  | .unknownNamespace => txt "unknown-namespace"
  | .unknownCapability => txt "unknown-capability"
  | .unknownEnumDomain => txt "unknown-enum-domain"
  | .unsupportedValueKind => txt "unsupported-value-kind"
  | .schemaViolation => txt "schema-violation"
  | .valueTypeMismatch => txt "value-type-mismatch"
  | .valueOutOfRange => txt "value-out-of-range"
  | .valueContradiction => txt "value-contradiction"
  | .valueNotCanonical => txt "value-not-canonical"
  | .duplicateValue => txt "duplicate-value"
  | .emptyCollection => txt "empty-collection"
  | .tooManyItems => txt "too-many-items"
  | .textTooLong => txt "text-too-long"
  | .payloadTooLarge => txt "payload-too-large"
  | .arithmeticOverflow => txt "arithmetic-overflow"
  | .nestingTooDeep => txt "nesting-too-deep"
  | .unknownEntity => txt "unknown-entity"
  | .unknownEntityGeneration => txt "unknown-entity-generation"
  | .entityGenerationStale => txt "entity-generation-stale"
  | .entityGenerationSuperseded => txt "entity-generation-superseded"
  | .capabilitySetGenerationStale => txt "capability-set-generation-stale"
  | .capabilitySetGenerationMismatch => txt "capability-set-generation-mismatch"
  | .evidenceGenerationStale => txt "evidence-generation-stale"
  | .sourceGenerationStale => txt "source-generation-stale"
  | .unknownPublisher => txt "unknown-publisher"
  | .unknownAuthorityScope => txt "unknown-authority-scope"
  | .unauthorizedPublisher => txt "unauthorized-publisher"
  | .authorityScopeViolation => txt "authority-scope-violation"
  | .publicationModeNotAuthorized => txt "publication-mode-not-authorized"
  | .provenanceNotAuthorized => txt "provenance-not-authorized"
  | .durablePublicationNotAuthorized => txt "durable-publication-not-authorized"
  | .exclusivityRequired => txt "exclusivity-required"
  | .workerBootUnknown => txt "worker-boot-unknown"
  | .workerBootStale => txt "worker-boot-stale"
  | .workerBootFenced => txt "worker-boot-fenced"
  | .coordinatorEpochStale => txt "coordinator-epoch-stale"
  | .coordinatorEpochUnknown => txt "coordinator-epoch-unknown"
  | .duplicateClaim => txt "duplicate-claim"
  | .conflictingClaim => txt "conflicting-claim"
  | .claimCountExceeded => txt "claim-count-exceeded"
  | .evidenceLimitExceeded => txt "evidence-limit-exceeded"
  | .staleReplay => txt "stale-replay"
  | .duplicateAttemptConflict => txt "duplicate-attempt-conflict"
  | .entityInvalidated => txt "entity-invalidated"
  | .entityGenerationAdvanceRequired => txt "entity-generation-advance-required"
  | .notFound => txt "not-found"
  | .persistencePathInvalid => txt "persistence-path-invalid"
  | .persistenceIoFailure => txt "persistence-io-failure"
  | .persistenceFormatInvalid => txt "persistence-format-invalid"
  | .persistenceVersionUnsupported => txt "persistence-version-unsupported"
  | .persistenceIntegrityFailure => txt "persistence-integrity-failure"
  | .persistenceCorrupt => txt "persistence-corrupt"
  | .persistenceDuplicateRecord => txt "persistence-duplicate-record"
  | .persistenceLimitExceeded => txt "persistence-limit-exceeded"
  | .transportUnavailable => txt "transport-unavailable"
  | .transportFailure => txt "transport-failure"
  | .transportClosed => txt "transport-closed"
  | .frameMalformed => txt "frame-malformed"
  | .frameTooLarge => txt "frame-too-large"
  | .frameVersionUnsupported => txt "frame-version-unsupported"
  | .frameIntegrityFailure => txt "frame-integrity-failure"
  | .frameTrailingBytes => txt "frame-trailing-bytes"
  | .frameTypeUnknown => txt "frame-type-unknown"
  | .frameStateViolation => txt "frame-state-violation"
  | .discoveryUnavailable => txt "discovery-unavailable"
  | .discoveryFailed => txt "discovery-failed"
  | .unsupported => txt "unsupported"
  | .internalFailure => txt "internal-failure"

/-- Structured failure value. -/
structure Error where
  code : ErrorCode
  message : Bytes
  detail : Bytes := []
  deriving DecidableEq, Repr

/-- Result carrier: either a value or an `Error`. -/
abbrev Outcome (α : Type) := Except Error α

/-- `Outcome<T>::Failure(code, message, detail)`. -/
def failure {α : Type} (code : ErrorCode) (message detail : Bytes) : Outcome α :=
  .error { code, message, detail }

/-- A sequence succeeds when both of its parts do. -/
theorem outcome_bind_eq_ok {α β : Type} {x : Outcome α} {f : α → Outcome β} {r : β} :
    (x >>= f) = .ok r ↔ ∃ a, x = .ok a ∧ f a = .ok r := by
  cases x with
  | error e => simp [bind, Except.bind]
  | ok a => simp [bind, Except.bind]

/-- A check that fails on a condition succeeds when the condition is false and what follows
succeeds. -/
theorem ite_failure_eq_ok {α : Type} {c : Prop} [Decidable c] {code : ErrorCode}
    {message detail : Bytes} {x : Outcome α} {r : α} :
    (if c then failure code message detail else x) = .ok r ↔ ¬c ∧ x = .ok r := by
  by_cases h : c
  · simp [h, failure]
  · simp [h]

end FabricCapability.Ports

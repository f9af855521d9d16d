import FabricCapability.Ports.ComposedResults
import FabricCapability.Ports.ReplayAnswers
import FabricCapability.Ports.SchemaRuns

/-!
# Answering a publication

The coordinator commits a publication first and encodes the answer afterwards.  The answer
carries the diff of the two sets, so it can be sent only when what changed fits into one
frame and the decoder accepts the values that were stored before and after.

## Main results

* `commit_answerable_iff`: when the answer to a commit can be sent.
* `stored_value_is_unanswerable`: a commit whose answer no decoder accepts.
-/

namespace FabricCapability.Ports

open FabricCapability.Verified.ByteCodec
open FabricCapability.Verified.Runs
open FabricCapability.Verified.StrictOrder

/-! ## The descriptors of a registry -/

/-- The canonical descriptors, and at most as many vendor descriptors as there may be. -/
def CapabilitySchema.Counted (schema : CapabilitySchema) : Prop :=
  schema.table.length = canonicalTable.length + schema.vendorCount ∧
    schema.vendorCount ≤ kMaxVendorDescriptors

theorem registerVendorDescriptor_counted {schema next : CapabilitySchema}
    {descriptor : CapabilityDescriptor} (h : schema.Counted)
    (hOk : schema.registerVendorDescriptor descriptor = .ok next) : next.Counted := by
  rcases registerVendorDescriptor_ok hOk with rfl | ⟨-, -, hRoom, rfl⟩
  · exact h
  · constructor
    · show (schema.table ++ [descriptor]).length = canonicalTable.length + (schema.vendorCount + 1)
      rw [List.length_append, h.1, List.length_singleton]
      omega
    · exact hRoom

theorem run_counted (options : Options) (operations : List Operation) :
    (afterRun options operations).schema.Counted :=
  run_schema options operations
    ⟨(Nat.add_zero canonicalTable.length).symm, Nat.zero_le _⟩
    fun _ _ _ => registerVendorDescriptor_counted

/-! ## Counting claims -/

theorem length_incrementalSteps (superseded : Bool) (edits : List IncrementalEdit) :
    (incrementalSteps superseded edits).length ≤ 2 * edits.length := by
  induction edits generalizing superseded with
  | nil => exact Nat.le_refl _
  | cons edit edits ih =>
      have hTrue := ih true
      have hSame := ih superseded
      unfold incrementalSteps
      split
      · simp only [List.length_cons]
        omega
      · split <;> simp only [List.length_cons] <;> omega
      · simp only [List.length_cons]
        omega

/-- There is a step for each claim and edit, and for each capability whose absence counts. -/
theorem length_applySteps (schema : CapabilitySchema) (grant : AuthorityGrant)
    (request : PublicationRequest) :
    (applySteps schema grant request).length ≤
      2 + request.claims.length + schema.table.length + 2 * request.edits.length := by
  have hAbsent : (absenceClaims schema grant request).length ≤ schema.table.length := by
    unfold absenceClaims
    rw [List.length_map]
    refine (List.length_filter_le _ _).trans (Nat.le_of_eq ?_)
    exact (sortBy_perm _ _).length_eq
  unfold applySteps
  split
  · unfold fullSnapshotSteps
    have hOthers : (if grant.exclusive then [ApplyStep.supersedeOtherIdentities]
        else []).length ≤ 1 := by
      split <;> simp
    have hAdded : (if grant.exclusive && request.coverage == .fullEnumeration then
        (absenceClaims schema grant request).map (ApplyStep.applyClaim · .fullEnumeration)
        else []).length ≤ schema.table.length := by
      split
      · rw [List.length_map]
        exact hAbsent
      · exact Nat.zero_le _
    simp only [List.length_append, List.length_map, List.length_singleton]
    omega
  · unfold partialObservationSteps
    rw [List.length_map]
    omega
  · have hSteps := length_incrementalSteps false request.edits
    omega

/-! ## The answer that a publication would get -/

/-- The entries of the diff between the set that is published and what an entity resolves
to. -/
def pendingEntries (entity : EntityState) (published : Option EntityCapabilitySet) :
    List CapabilityDiffEntry :=
  (buildDiff entity.id published (publishedEntity 0 entity).set).entries

/-- The entries depend on the capabilities of the later set, its entity generation and
whether it is invalidated. -/
theorem buildDiff_entries {entity : EntityId} {before : Option EntityCapabilitySet}
    {a b : EntityCapabilitySet} (hGeneration : a.entityGeneration = b.entityGeneration)
    (hInvalidated : a.invalidated = b.invalidated) (hCapabilities : a.capabilities = b.capabilities) :
    (buildDiff entity before (some a)).entries = (buildDiff entity before (some b)).entries := by
  have hFind : diffCapability before (some a) = diffCapability before (some b) := by
    funext capability
    unfold diffCapability
    simp only [Option.bind_some, EntityCapabilitySet.find, hCapabilities]
  have hMerged : mergedCapabilities before (some a) = mergedCapabilities before (some b) := by
    unfold mergedCapabilities
    simp only [Option.map_some, hCapabilities]
  unfold buildDiff
  simp only [hFind, hMerged]
  cases before with
  | none => rfl
  | some before =>
      simp only [diffEntity, hGeneration, hInvalidated]

/-- What an answer takes beside its diff entries: the identifiers of the request, the
counters, and texts that depend on whether the set changed. -/
def answerOverhead (request : PublicationRequest) (steps : List ApplyStep)
    (published setGeneration registryGeneration : Nat) (changed : Bool) : Nat :=
  532 + request.publication.value.length + request.attempt.value.length +
    2 * request.entity.toText.length + (publicationModeName request.mode).length +
    (decimal (steps.countP ApplyStep.applies)).length +
    (decimal (steps.countP ApplyStep.withdraws)).length +
    (decimal published).length + (decimal setGeneration).length +
    (decimal registryGeneration).length + (if changed then 73 else 137)

/-- The size of a committed result, over the generations that it was given. -/
theorem size_committedResult {advanced : Registry} {request : PublicationRequest}
    {before : Option EntityCapabilitySet} {next : EntityState} {steps : List ApplyStep}
    {changed : Bool} {registryGeneration : RegistryGeneration} (hId : next.id = request.entity) :
    let result := committedResult advanced request before
      (publishedEntity registryGeneration next) steps changed
    result.size = answerOverhead request steps
        ((before.map fun set => set.setGeneration.toNat).getD 0)
        next.setGeneration.toNat advanced.registryGeneration.toNat changed +
      (result.diff.entries.map CapabilityDiffEntry.size).sum := by
  have hMessage : (if changed then txt "committed"
      else txt "committed without a semantic change").length +
      (if changed then 64 else 102) = if changed then 73 else 137 := by
    cases changed <;> decide
  have hPrevious : ((before.map EntityCapabilitySet.setGeneration).getD 0).toNat =
      (before.map fun set => set.setGeneration.toNat).getD 0 := by
    cases before <;> rfl
  intro result
  have hSize : result.size = 123 + (if changed then txt "committed"
      else txt "committed without a semantic change").length + request.publication.value.length +
      request.attempt.value.length + request.entity.toText.length +
      (104 + next.id.toText.length + (result.diff.entries.map CapabilityDiffEntry.size).sum) +
      result.explanation.size := rfl
  have hExplanation : result.explanation.size = 305 + (publicationModeName request.mode).length +
      (decimal (steps.countP ApplyStep.applies)).length +
      (decimal (steps.countP ApplyStep.withdraws)).length +
      (decimal ((before.map EntityCapabilitySet.setGeneration).getD 0).toNat).length +
      (decimal next.setGeneration.toNat).length +
      (decimal advanced.registryGeneration.toNat).length + (if changed then 64 else 102) :=
    size_committedExplanation
  rw [hSize, hExplanation, hId, ← hPrevious, answerOverhead, ← hMessage]
  omega

/-- The answer to a publication, if it is admitted and committed: at most 4096 capabilities
change, their names and values are accepted by the decoder, and their sizes add up to no
more than a frame holds. -/
def AnswerFits (registry : Registry) (request : PublicationRequest) : Prop :=
  ∀ grant bound entity, admitted registry request = some (grant, bound, entity) →
    let steps := applySteps bound.schema grant request
    let applied := (runSteps bound request (bound.cell entity) steps).1.entity
    let changed := semanticChange entity.set applied
    let entries := pendingEntries applied entity.set
    entries.length ≤ kMaxWireDiffEntries ∧
      (∀ entry ∈ entries, entry.readable = true) ∧
      answerOverhead request steps
          ((entity.set.map fun set => set.setGeneration.toNat).getD 0)
          (entity.setGeneration.toNat + if changed then 1 else 0)
          (bound.registryGeneration.toNat + if changed then 1 else 0) changed +
        (entries.map CapabilityDiffEntry.size).sum ≤ kMaxFrameBytes

namespace Committed

variable {registry after : Registry} {request : PublicationRequest} {result : PublicationResult}

theorem admits (c : Committed registry request after result) :
    admitted registry request = some (c.grant, c.bound, c.entity) := by
  unfold admitted
  rw [c.valid]
  dsimp only
  rw [c.binds]
  dsimp only
  rw [c.fresh, c.checked]

/-- The result of a commit, over what stage 10 left. -/
theorem result_eq (c : Committed registry request after result) :
    ∃ advanced next,
      advanceGenerations c.applied c.published (semanticChange c.entity.set c.published) =
        (advanced, .ok next) ∧
      result = committedResult advanced request c.entity.set
        (publishedEntity advanced.registryGeneration next)
        (applySteps c.bound.schema c.grant request)
        (semanticChange c.entity.set c.published) := by
  obtain ⟨advanced, next, hAdvance, hResult, -⟩ := commit_ok c.commits
  exact ⟨advanced, next, hAdvance, hResult⟩

/-- The counts of a commit are those of a list of some thousand steps. -/
theorem counts (c : Committed registry request after result) (hSchema : registry.schema.Counted) :
    (applySteps c.bound.schema c.grant request).length < 2 ^ 64 := by
  have hSteps := length_applySteps c.bound.schema c.grant request
  have hControl := bindEntity_control registry request
  rw [c.binds] at hControl
  have hTable : c.bound.schema.table.length = registry.schema.table.length := by
    rw [hControl.schema]
  obtain ⟨hClaims, hEdits⟩ := checkShape_sizes (validateRequest_ok c.valid).shape
  have hCanonical : canonicalTable.length ≤ 256 := by decide
  have hVendor := hSchema.2
  have hLength := hSchema.1
  simp only [kMaxClaimsPerPublication, kMaxVendorDescriptors] at hClaims hEdits hVendor
  omega

theorem composed (c : Committed registry request after result)
    (hSchema : registry.schema.Counted) : result.Composed := by
  obtain ⟨advanced, next, -, hResult⟩ := c.result_eq
  have hCount := (c.counts hSchema).trans (show 2 ^ 64 < 10 ^ 20 by decide)
  rw [hResult]
  refine ⟨?_, fun entry hMem => buildDiff_composed hMem, ?_⟩
  · show Fits _ (if semanticChange c.entity.set c.published then txt "committed"
      else txt "committed without a semantic change")
    exact fits_literal (by cases semanticChange c.entity.set c.published <;> decide)
  · exact committedExplanation_composed (List.countP_le_length.trans_lt hCount)
      (List.countP_le_length.trans_lt hCount)

/-- The entity that stage 10 left is the one that the answer is foreseen from. -/
theorem published_eq (c : Committed registry request after result) :
    c.published = (runSteps c.bound request (c.bound.cell c.entity)
      (applySteps c.bound.schema c.grant request)).1.entity :=
  (applyRequest_entity c.applies).2.2

theorem applied_registryGeneration (c : Committed registry request after result) :
    c.applied.registryGeneration = c.bound.registryGeneration := by
  obtain ⟨-, hApplied, -⟩ := applyRequest_entity c.applies
  rw [hApplied]
  rfl

/-- The diff does not depend on the generations that the commit hands out. -/
theorem entries_eq (c : Committed registry request after result) :
    result.diff.entries = pendingEntries c.published c.entity.set := by
  obtain ⟨advanced, next, hAdvance, hResult⟩ := c.result_eq
  obtain ⟨-, hNext, -⟩ := advanceGenerations_ok hAdvance
  have hEntries := congrArg (fun result => result.diff.entries) hResult
  rw [hNext] at hEntries
  exact hEntries.trans (buildDiff_entries rfl rfl rfl)

theorem size_eq (c : Committed registry request after result) :
    result.size = answerOverhead request (applySteps c.bound.schema c.grant request)
        ((c.entity.set.map fun set => set.setGeneration.toNat).getD 0)
        (c.entity.setGeneration.toNat +
          if semanticChange c.entity.set c.published then 1 else 0)
        (c.bound.registryGeneration.toNat +
          if semanticChange c.entity.set c.published then 1 else 0)
        (semanticChange c.entity.set c.published) +
      ((pendingEntries c.published c.entity.set).map CapabilityDiffEntry.size).sum := by
  have hSame := c.published_same
  obtain ⟨hBound, -⟩ := bindEntity_ok c.binds
  obtain ⟨advanced, next, hAdvance, hResult⟩ := c.result_eq
  obtain ⟨-, hNext, hSet, hGeneration⟩ := advanceGenerations_ok hAdvance
  have hId : next.id = request.entity := by
    rw [hNext]
    exact hSame.id_eq.trans hBound
  have hEntries := congrArg (fun result => result.diff.entries) hResult
  rw [c.entries_eq] at hEntries
  rw [hSame.setGeneration_eq] at hSet
  rw [c.applied_registryGeneration] at hGeneration
  rw [hEntries, ← hSet, ← hGeneration]
  exact (congrArg PublicationResult.size hResult).trans (size_committedResult hId)

end Committed

/-- The answer to a commit can be sent exactly when the change fits. -/
theorem commit_answerable_iff (options : Options) (operations : List Operation)
    {request : PublicationRequest} {after : Registry} {result : PublicationResult}
    (hPublish : publish (afterRun options operations) request = (after, .ok result))
    (hCommitted : result.status = .committed) :
    result.Answerable ↔ AnswerFits (afterRun options operations) request := by
  have hSchema := run_counted options operations
  obtain ⟨c⟩ := publish_committed hPublish hCommitted
  rw [answer_iff (c.composed hSchema), c.entries_eq, c.size_eq, c.published_eq]
  constructor
  · intro hFits grant bound entity hAdmitted
    rw [c.admits] at hAdmitted
    cases hAdmitted
    exact hFits
  · intro hFits
    exact hFits c.grant c.bound c.entity c.admits

/-! ### A value that only a process can publish -/

/-- What a publication answers, as far as it matters here. -/
def answers (registry : Registry) (request : PublicationRequest) :
    Option (PublicationStatus × List Bool) :=
  (publish registry request).2.toOption.map fun result =>
    (result.status, result.diff.entries.map CapabilityDiffEntry.readable)

theorem of_answers {registry : Registry} {request : PublicationRequest}
    {status : PublicationStatus} {readable : List Bool}
    (h : answers registry request = some (status, readable)) :
    ∃ after result, publish registry request = (after, .ok result) ∧ result.status = status ∧
      result.diff.entries.map CapabilityDiffEntry.readable = readable := by
  unfold answers at h
  cases hPublish : publish registry request with
  | mk after outcome =>
      rw [hPublish] at h
      cases outcome with
      | error e => cases h
      | ok result =>
          cases h
          exact ⟨after, result, rfl, rfl, rfl⟩

namespace Sample

/-- The first claim of a capability. -/
def soleClaim : PublicationRequest :=
  publication bootOne "attempt-1" 1 0 (claim .supported .processBound)

/-- A vendor capability whose value is a record. -/
def noteCapability : CapabilityId := canonicalId "vendor.acme.queue.note"

def noteDescriptor : CapabilityDescriptor :=
  { builder "vendor.acme.queue.note" .record with vendorExtension := true }

/-- A record with a text of two lines, which the factories accept. -/
def note : CapabilityValue :=
  (CapabilityValue.recordValue
    [{ name := txt "text", value := .text (txt "a\nb") rfl }]).toOption.getD .absent

/-- The record is published in process. -/
def noteSetup : List Operation :=
  [.declareAuthority { grant with namespaces := [noteCapability.ns] },
   .registerPublisher publisher scope bootOne,
   .registerVendorDescriptor noteDescriptor,
   .publish (publication bootOne "attempt-1" 1 0
     { claim .supported .processBound with capability := noteCapability, value := note })]

/-- A snapshot that no longer has the record. -/
def emptySnapshot : PublicationRequest :=
  { publication bootOne "attempt-2" 1 1 (claim .supported .processBound) with
    mode := .fullSnapshot
    claims := [] }

end Sample

theorem first_claim_answerable_iff :
    ∃ after result, publish (afterRun {} Sample.setup) Sample.soleClaim = (after, .ok result) ∧
      (result.Answerable ↔ AnswerFits (afterRun {} Sample.setup) Sample.soleClaim) := by
  have hAnswers : answers (afterRun {} Sample.setup) Sample.soleClaim =
      some (.committed, [true]) := by decide +kernel
  obtain ⟨after, result, hPublish, hStatus, -⟩ := of_answers hAnswers
  exact ⟨after, result, hPublish, commit_answerable_iff {} Sample.setup hPublish hStatus⟩

/-- The snapshot arrives in a frame and is committed, and no decoder accepts the answer: it
shows the value before. -/
theorem stored_value_is_unanswerable :
    ¬∀ options operations payload request after result,
      payload.length ≤ kMaxFrameBytes →
      decodePublicationRequest payload = .ok request →
      publish (afterRun options operations) request = (after, .ok result) →
      result.status = .committed → result.Answerable := by
  intro h
  have hAnswers : answers (afterRun {} Sample.noteSetup) Sample.emptySnapshot =
      some (.committed, [false]) := by decide +kernel
  obtain ⟨after, result, hPublish, hStatus, hReadable⟩ := of_answers hAnswers
  have hEncoded : ∃ payload, encodePublicationRequest Sample.emptySnapshot = .ok payload ∧
      payload.length ≤ kMaxFrameBytes :=
    ⟨orNothing (encodePublicationRequest Sample.emptySnapshot), by decide +kernel,
      by decide +kernel⟩
  obtain ⟨payload, hEncode, hLength⟩ := hEncoded
  have hDecode : decodePublicationRequest payload = .ok Sample.emptySnapshot := by
    refine (readWhole_eq_ok (readsBack_request _ _ hEncode)).2 (rereadRequest_eq_some.2 ?_)
    exact ⟨rfl, by decide +kernel, by decide +kernel, by decide +kernel, by decide +kernel,
      fun claim hMem => by cases hMem⟩
  have hAnswer := h {} Sample.noteSetup payload Sample.emptySnapshot after result hLength hDecode
    hPublish hStatus
  obtain ⟨c⟩ := publish_committed hPublish hStatus
  obtain ⟨-, hEntries, -⟩ := (answer_iff (c.composed (run_counted {} Sample.noteSetup))).1 hAnswer
  have hAll : ∀ readable ∈ result.diff.entries.map CapabilityDiffEntry.readable,
      readable = true := by
    intro readable hMem
    obtain ⟨entry, hEntry, rfl⟩ := List.mem_map.1 hMem
    exact hEntries entry hEntry
  rw [hReadable] at hAll
  exact absurd (hAll false (List.mem_singleton_self _)) (by decide)

end FabricCapability.Ports

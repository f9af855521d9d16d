import FabricCapability.Ports.EvidenceOrder
import FabricCapability.Ports.ClaimChecks

/-!
# Authority confinement

Evidence is created on three paths: from a claim, from an edit, and from the absence of a
capability in an exclusive enumeration.  Stage 5 of `Publish` checks the claims and the
edits; an absence is checked nowhere, but it takes its provenance and its source class from
the first claim, or the strongest provenance of the grant when there is no claim.

`WithinGrant` is what the three paths have in common.  `applySteps_within` shows that stage 10
only ever applies claims that lie within the grant, whichever path they come from.

## Main results

* `records_after`: after a commit, a record of the entity was created by it or was held
  before.
* `created_evidence_is_confined`: every record that a commit creates lies within the grant.
-/

namespace FabricCapability.Ports

open FabricCapability.Verified.KeyedList

/-! ## What a grant covers -/

/-- An observation of a capability that a grant lets its publishers make. -/
structure WithinGrant (grant : AuthorityGrant) (capability : CapabilityId)
    (provenance : ProvenanceClass) (sourceClass : EvidenceSourceClass)
    (durability : DurabilityClass) : Prop where
  covered : namespaceAllowed grant capability.ns = true
  granted : provenanceRank grant.strongestProvenance ≤ provenanceRank provenance
  supported :
    provenanceRank (strongestProvenanceForSource sourceClass) ≤ provenanceRank provenance
  durable : durability = .durable →
    grant.mayPublishDurable = true ∧ isLiveProcessObservation provenance = false

def CapabilityClaim.Within (claim : CapabilityClaim) (grant : AuthorityGrant) : Prop :=
  WithinGrant grant claim.capability claim.provenance claim.sourceClass claim.durability

/-- The record lies within the grant, and the grant covers its entity. -/
def EvidenceRecord.Within (record : EvidenceRecord) (grant : AuthorityGrant) : Prop :=
  record.entity.kind ∈ grant.entityKinds ∧
    WithinGrant grant record.capability record.provenance record.sourceClass
      record.durability

/-! ## Stage 5 -/

section Checks

variable {schema : CapabilitySchema} {grant : AuthorityGrant}

theorem checkClaim_within {seen : List Bytes} {claim : CapabilityClaim}
    (h : checkClaim schema grant seen claim = .ok ()) : claim.Within grant := by
  unfold checkClaim namespaceViolation at h
  rw [ite_failure_eq_ok, ite_failure_eq_ok, ite_failure_eq_ok] at h
  obtain ⟨-, hCovered, -, h⟩ := h
  obtain ⟨descriptor, -, h⟩ := outcome_bind_eq_ok.1 h
  rw [ite_failure_eq_ok, ite_failure_eq_ok, ite_failure_eq_ok, ite_failure_eq_ok] at h
  obtain ⟨hGranted, hSupported, hDurable, hLive, -⟩ := h
  refine ⟨by simpa using hCovered, UInt8.not_lt.1 hGranted, UInt8.not_lt.1 hSupported, ?_⟩
  intro hDurability
  constructor
  · simpa [hDurability] using hDurable
  · simpa [hDurability] using hLive

theorem checkClaims_within {seen : List Bytes} {claims : List CapabilityClaim}
    (h : checkClaims schema grant seen claims = .ok ()) :
    ∀ claim ∈ claims, claim.Within grant :=
  fun claim hMem => checkClaim_within ((checkClaims_ok_iff.1 h).1 claim hMem)

/-- The operations of an edit that create no record. -/
def IncrementalEdit.retracts (edit : IncrementalEdit) : Prop :=
  edit.operation = .withdrawClaim ∨ edit.operation = .supersedeSourceEvidence

theorem checkEdit_within {edit : IncrementalEdit} (h : checkEdit schema grant edit = .ok ())
    (hWrites : ¬edit.retracts) : edit.effectiveClaim.Within grant := by
  have hCapability := effectiveClaim_capability edit
  unfold checkEdit namespaceViolation at h
  rw [ite_failure_eq_ok, ite_failure_eq_ok] at h
  obtain ⟨-, hCovered, h⟩ := h
  obtain ⟨descriptor, -, h⟩ := outcome_bind_eq_ok.1 h
  rw [if_neg (by exact hWrites)] at h
  dsimp only at h
  rw [ite_failure_eq_ok, ite_failure_eq_ok] at h
  obtain ⟨hProvenance, hDurable, -⟩ := h
  rw [not_or] at hProvenance
  refine ⟨?_, UInt8.not_lt.1 hProvenance.1, UInt8.not_lt.1 hProvenance.2, ?_⟩
  · rw [hCapability]
    simpa using hCovered
  · intro hDurability
    simpa [hDurability] using hDurable

theorem checkEdits_within {edits : List IncrementalEdit}
    (h : checkEdits schema grant edits = .ok ()) :
    ∀ edit ∈ edits, ¬edit.retracts → edit.effectiveClaim.Within grant :=
  fun edit hMem hWrites => checkEdit_within (checkEdits_ok_iff.1 h edit hMem) hWrites

/-- Stage 4 establishes that the grant in force covers the mode and the entity. -/
theorem checkGrant_covers {registry : Registry} {request : PublicationRequest}
    (h : checkGrant registry request = .ok grant) :
    allowsMode grant.modes request.mode = true ∧ request.entity.kind ∈ grant.entityKinds := by
  unfold checkGrant at h
  split at h
  · cases h
  · rw [ite_failure_eq_ok, ite_failure_eq_ok, ite_failure_eq_ok] at h
    obtain ⟨hMode, hKind, -, h⟩ := h
    cases h
    exact ⟨by simpa using hMode, Decidable.not_not.1 hKind⟩

theorem validateRequest_covers {registry : Registry} {request : PublicationRequest}
    {runtime : PublisherRuntime} (h : validateRequest registry request = .ok (runtime, grant)) :
    allowsMode grant.modes request.mode = true ∧ request.entity.kind ∈ grant.entityKinds := by
  unfold validateRequest at h
  obtain ⟨_, -, h⟩ := outcome_bind_eq_ok.1 h
  obtain ⟨_, -, h⟩ := outcome_bind_eq_ok.1 h
  obtain ⟨_, -, h⟩ := outcome_bind_eq_ok.1 h
  obtain ⟨held, hGrant, h⟩ := outcome_bind_eq_ok.1 h
  obtain ⟨_, -, h⟩ := outcome_bind_eq_ok.1 h
  obtain ⟨_, -, h⟩ := outcome_bind_eq_ok.1 h
  cases h
  exact checkGrant_covers hGrant

end Checks

/-! ## Stage 10 -/

section Steps

variable {schema : CapabilitySchema} {grant : AuthorityGrant} {request : PublicationRequest}

/-- An inferred absence takes the authority of the first claim, which was checked; without
claims it takes what the grant holds at most, and hardware enumeration supports any
provenance. -/
theorem absenceClaims_within (hClaims : ∀ claim ∈ request.claims, claim.Within grant) :
    ∀ claim ∈ absenceClaims schema grant request, claim.Within grant := by
  intro claim hMem
  obtain ⟨descriptor, hAbsent, rfl⟩ := List.mem_map.1 hMem
  have hCovered : namespaceAllowed grant descriptor.id.ns = true := by
    have hKept := (List.mem_filter.1 hAbsent).2
    simp only [Bool.and_eq_true] at hKept
    exact hKept.2
  cases hHead : request.claims with
  | nil =>
      refine ⟨hCovered, ?_, ?_, fun hDurable => by cases hDurable⟩
      · simp [impliedAbsence, hHead]
      · simp [impliedAbsence, hHead, strongestProvenanceForSource, provenanceRank]
  | cons first claims =>
      have hFirst : first.Within grant := hClaims first (by rw [hHead]; exact List.mem_cons_self ..)
      refine ⟨hCovered, ?_, ?_, fun hDurable => by cases hDurable⟩
      · simpa [impliedAbsence, hHead] using hFirst.granted
      · simpa [impliedAbsence, hHead] using hFirst.supported

/-- Whatever stage 10 applies lies within the grant. -/
theorem applySteps_within (hClaims : ∀ claim ∈ request.claims, claim.Within grant)
    (hEdits : ∀ edit ∈ request.edits, ¬edit.retracts → edit.effectiveClaim.Within grant)
    {claim : CapabilityClaim} {coverage : Coverage}
    (hMem : .applyClaim claim coverage ∈ applySteps schema grant request) :
    claim.Within grant := by
  generalize hStep : ApplyStep.applyClaim claim coverage = step at hMem
  cases applySteps_from step hMem with
  | claim _ hClaim =>
      cases hStep
      exact hClaims claim hClaim
  | absence _ _ _ hAbsent =>
      cases hStep
      exact absenceClaims_within hClaims claim hAbsent
  | edit _ hEdit hKept hOwn =>
      cases hStep
      exact hEdits _ hEdit fun hRetracts => hRetracts.elim hKept hOwn
  | supersession _ _ _ hCounts => rcases hCounts with rfl | rfl <;> cases hStep
  | _ => cases hStep

end Steps

/-! ## The records after a publication -/

/-- The records that the registry holds for an entity. -/
def Registry.recordsOf (registry : Registry) (id : EntityId) : List EvidenceRecord :=
  ((registry.findEntity id).map fun entity =>
    entity.capabilities.flatMap CapabilityEntry.evidence).getD []

/-- Two versions of one record: only the label may differ. -/
def SameObservation (a b : EvidenceRecord) : Prop :=
  b = { a with currentness := b.currentness, reason := b.reason }

/-- The record is a version of one of the pool. -/
def VersionOf (pool : List EvidenceRecord) (record : EvidenceRecord) : Prop :=
  ∃ origin ∈ pool, SameObservation origin record

theorem VersionOf.mono {pool larger : List EvidenceRecord} {record : EvidenceRecord}
    (h : VersionOf pool record) (hSubset : pool ⊆ larger) : VersionOf larger record := by
  obtain ⟨origin, hMem, hSame⟩ := h
  exact ⟨origin, hSubset hMem, hSame⟩

theorem VersionOf.relabelled {pool : List EvidenceRecord} {record : EvidenceRecord}
    (h : VersionOf pool record) (currentness : EvidenceCurrentness) (reason : ReasonToken) :
    VersionOf pool { record with currentness, reason } := by
  obtain ⟨origin, hMem, hSame⟩ := h
  refine ⟨origin, hMem, ?_⟩
  unfold SameObservation at hSame ⊢
  rw [hSame]

/-- The entry holds versions of the records of the pool only. -/
def CapabilityEntry.From (pool : List EvidenceRecord) (entry : CapabilityEntry) : Prop :=
  ∀ record ∈ entry.evidence, VersionOf pool record

section Records

variable {registry : Registry} {request : PublicationRequest} {cell : Cell}
  {pool : List EvidenceRecord}

theorem CapabilityEntry.From.relabel {entry : CapabilityEntry} (h : entry.From pool)
    (matching : EvidenceRecord → Bool) (currentness : EvidenceCurrentness)
    (reason : ReasonToken) :
    ∀ record ∈ relabel matching currentness reason entry.evidence, VersionOf pool record := by
  intro record hMem
  obtain ⟨held, hHeld, rfl | rfl⟩ := mem_relabel hMem
  · exact h _ hHeld
  · exact (h _ hHeld).relabelled _ _

/-- A change of an entry: its records are versions of those that it had and of the one that
the step created. -/
theorem EntryChange.from {step : ApplyStep} {ok : Bool} {entry later : CapabilityEntry}
    (hChange : EntryChange registry request cell step ok entry later) (hOk : ok = true)
    (h : entry.From pool) : later.From (pool ++ step.created registry request cell) := by
  have hHeld : ∀ record, VersionOf pool record →
      VersionOf (pool ++ step.created registry request cell) record :=
    fun record hVersion => hVersion.mono (List.subset_append_left _ _)
  cases hChange with
  | superseded => exact fun record hMem => hHeld _ (h.relabel _ _ _ record hMem)
  | withdrawn => exact fun record hMem => hHeld _ (h.relabel _ _ _ record hMem)
  | unwithdrawn => cases hOk
  | trimmed => cases hOk
  | unapplied => cases hOk
  | applied =>
      intro record hMem
      rcases List.mem_append.1 hMem with hKept | hNew
      · exact hHeld _ (h.relabel _ _ _ record ((trimEvidence_sublist _ _).subset hKept))
      · rw [List.mem_singleton.1 hNew]
        exact ⟨_, List.mem_append_right _ (List.mem_singleton_self _), rfl⟩

/-- One step of stage 10. -/
theorem step_from {step : ApplyStep} (hOk : (step.run registry request cell).2 = .ok ())
    (h : AllEntries (CapabilityEntry.From pool) cell.entity) :
    AllEntries (CapabilityEntry.From (pool ++ step.created registry request cell))
      (step.run registry request cell).1.entity := by
  have hGrows : EntriesGrow (fun entry later =>
      entry.From (pool ++ step.created registry request cell) →
        later.From (pool ++ step.created registry request cell))
      cell.entity (step.run registry request cell).1.entity := by
    refine ApplyStep.run_grows (fun _ => id) fun ok entry later hChange hFlag hEntry => ?_
    have hLater := hChange.from (by rw [hFlag, hOk]; rfl) hEntry
    exact fun record hMem => (hLater record hMem).mono (by simp)
  refine hGrows.invariant (fun id record hMem => by cases hMem) fun entry hMem record hHeld => ?_
  exact (h entry hMem record hHeld).mono (List.subset_append_left _ _)

/-- Stage 10: the records are versions of those held before it and of those it created. -/
theorem runSteps_from {steps : List ApplyStep}
    (hOk : (runSteps registry request cell steps).2 = .ok ())
    (h : AllEntries (CapabilityEntry.From pool) cell.entity) :
    AllEntries (CapabilityEntry.From (pool ++ createdBy registry request cell steps))
      (runSteps registry request cell steps).1.entity := by
  induction steps generalizing cell pool with
  | nil => simpa [createdBy, runSteps] using h
  | cons step steps ih =>
      have hStep := fun hHere => @step_from registry request cell pool step hHere h
      rw [runSteps] at hOk ⊢
      rw [createdBy]
      generalize step.run registry request cell = ran at hOk hStep ⊢
      obtain ⟨next, outcome⟩ := ran
      cases outcome with
      | error e => cases hOk
      | ok done =>
          dsimp only at hOk hStep ⊢
          rw [← List.append_assoc]
          exact ih hOk (hStep rfl)

/-- A record that an entity holds after a commit was created by it, or is a version of one
that the entity held before. -/
theorem records_after (attempt : Attempt) (hCommitted : attempt.committed = true) :
    ∀ record ∈ attempt.after.recordsOf attempt.request.entity,
      VersionOf (attempt.before.recordsOf attempt.request.entity ++ attempt.created) record := by
  obtain ⟨result, ⟨c⟩⟩ := attempt.committed_stages hCommitted
  have hCreated : attempt.created = createdBy c.bound attempt.request (c.bound.cell c.entity)
      (applySteps c.bound.schema c.grant attempt.request) := by
    rw [Attempt.created, if_pos hCommitted, c.valid, c.binds]
  have hRuns : (runSteps c.bound attempt.request (c.bound.cell c.entity)
      (applySteps c.bound.schema c.grant attempt.request)).2 = .ok () := by
    have hOk := applyRequest_isOk c.bound attempt.request c.entity
      (applySteps c.bound.schema c.grant attempt.request)
    rw [c.applies] at hOk
    revert hOk
    cases (runSteps c.bound attempt.request (c.bound.cell c.entity)
      (applySteps c.bound.schema c.grant attempt.request)).2 with
    | error e => exact fun hOk => by cases hOk
    | ok u => exact fun _ => rfl
  -- the bound entity is the one held, or it has no records yet
  have hBefore : AllEntries
      (CapabilityEntry.From (attempt.before.recordsOf attempt.request.entity)) c.entity := by
    intro entry hEntry record hMem
    obtain ⟨-, -, -, ⟨-, hFound⟩ | ⟨hFresh, -⟩⟩ := bindEntity_ok c.binds
    · refine ⟨record, ?_, rfl⟩
      rw [Registry.recordsOf, hFound]
      exact List.mem_flatMap.2 ⟨entry, hEntry, hMem⟩
    · rw [hFresh.capabilities] at hEntry
      cases hEntry
  obtain ⟨registryGeneration, next, hAfter, hNext, -⟩ := c.entity_after
  obtain ⟨-, -, hPublished⟩ := applyRequest_entity c.applies
  have hCapabilities : next.capabilities = (runSteps c.bound attempt.request
      (c.bound.cell c.entity)
      (applySteps c.bound.schema c.grant attempt.request)).1.entity.capabilities := by
    rw [hNext, hPublished]
  intro record hMem
  rw [Registry.recordsOf, hAfter] at hMem
  obtain ⟨entry, hEntry, hRecord⟩ := List.mem_flatMap.1 hMem
  rw [committedEntity_capabilities, hCapabilities] at hEntry
  rw [hCreated]
  exact runSteps_from hRuns hBefore entry hEntry record hRecord

end Records

/-! ## The records of a commit -/

/-- A commit creates evidence within the grant in force only, in a mode that the grant
allows; the other records that its entity holds afterwards it held before. -/
theorem created_evidence_is_confined (attempt : Attempt)
    (hCommitted : attempt.committed = true) :
    ∃ grant, attempt.before.findGrant attempt.request.authority.scope = some grant ∧
      allowsMode grant.modes attempt.request.mode = true ∧
      (∀ record ∈ attempt.created, record.Within grant) ∧
      ∀ record ∈ attempt.after.recordsOf attempt.request.entity,
        VersionOf (attempt.before.recordsOf attempt.request.entity ++ attempt.created)
          record := by
  obtain ⟨result, ⟨c⟩⟩ := attempt.committed_stages hCommitted
  have hValid := validateRequest_ok c.valid
  obtain ⟨hMode, hKind⟩ := validateRequest_covers c.valid
  refine ⟨c.grant, hValid.granted, hMode, fun record hCreated => ?_, records_after attempt hCommitted⟩
  have hMem := hCreated
  rw [Attempt.created, if_pos hCommitted, c.valid, c.binds] at hMem
  obtain ⟨hEntity, -⟩ := createdBy_entity hMem
  have hId : record.entity = attempt.request.entity := hEntity.trans (bindEntity_ok c.binds).1
  have hReport : record.report ∈ (publicationSteps attempt.before attempt.request).flatMap
      ApplyStep.reports := created_report hCommitted ▸ List.mem_map_of_mem hCreated
  obtain ⟨step, hStep, hReport⟩ := List.mem_flatMap.1 hReport
  rw [publicationSteps, c.valid] at hStep
  cases step with
  | applyClaim claim coverage =>
      have hClaim : claim.Within c.grant := applySteps_within (checkClaims_within hValid.claims)
        (checkEdits_within hValid.edits) hStep
      have hWithin : record.report.Within c.grant := by
        rw [List.mem_singleton.1 hReport]
        exact ⟨hClaim.covered, hClaim.granted, hClaim.supported, hClaim.durable⟩
      exact ⟨hId ▸ hKind, hWithin⟩
  | _ => cases hReport

/-! ### An enumeration without claims -/

namespace Sample

def virtualizationNamespace : CapabilityNamespaceId :=
  (CapabilityNamespaceId.parse (txt "fabric.virtualization")).toOption.getD .unset

/-- The scope owns the virtualization capabilities, of which one is declared absent when it
is not found. -/
def ownGrant : AuthorityGrant :=
  { grant with namespaces := [virtualizationNamespace], exclusive := true }

/-- Nothing was found. -/
def emptySurface : PublicationRequest :=
  { publication bootOne "attempt-1" 1 0 (claim .unknown .processBound) with
    mode := .fullSnapshot
    coverage := .fullEnumeration
    claims := [] }

def enumeration : Attempt :=
  ⟨afterRun {} [.declareAuthority ownGrant, .registerPublisher publisher scope bootOne],
    emptySurface⟩

end Sample

theorem inferred_absences_are_confined :
    Sample.enumeration.created.length = 1 ∧
    ∃ grant, Sample.enumeration.before.findGrant Sample.scope = some grant ∧
      allowsMode grant.modes Sample.enumeration.request.mode = true ∧
      (∀ record ∈ Sample.enumeration.created, record.Within grant) ∧
      ∀ record ∈ Sample.enumeration.after.recordsOf Sample.enumeration.request.entity,
        VersionOf (Sample.enumeration.before.recordsOf Sample.enumeration.request.entity ++
          Sample.enumeration.created) record := by
  have hRuns : Sample.enumeration.created.length = 1 ∧
      Sample.enumeration.committed = true := by decide +kernel
  exact ⟨hRuns.1, created_evidence_is_confined Sample.enumeration hRuns.2⟩

end FabricCapability.Ports

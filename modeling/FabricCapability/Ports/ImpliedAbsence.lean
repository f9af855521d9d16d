import FabricCapability.Ports.Confinement
import FabricCapability.Ports.Replacement

/-!
# Absences that a snapshot implies

An exclusive full enumeration says something about the capabilities that it leaves out: those
whose absence is negative are recorded as unsupported.  Nothing checks these records.  They
carry no value, whatever the kind of the descriptor, and they take the provenance of the
first claim, or the strongest one of the grant when there is no claim.

So such a record is sound when the descriptor is boolean and the first claim is a direct
observation, and in no other case.

## Main results

* `created_unnamed`, `leftOut_created`: the records for capabilities that are not named.
* `absences_sound_iff`: when all of them are sound.
-/

namespace FabricCapability.Ports

open FabricCapability.Verified.KeyedList
open FabricCapability.Verified.StrictOrder

/-! ## What is left out -/

/-- The snapshot enumerates all that its scope owns, and leaves out a capability whose
absence is negative. -/
structure LeavesOut (registry : Registry) (request : PublicationRequest)
    (descriptor : CapabilityDescriptor) : Prop where
  snapshot : request.mode = .fullSnapshot
  enumerated : request.coverage = .fullEnumeration
  owned : ∃ grant, registry.findGrant request.authority.scope = some grant ∧
    grant.exclusive = true ∧ namespaceAllowed grant descriptor.id.ns = true
  declared : descriptor ∈ registry.schema.table
  negative : descriptor.absenceIsNegative = true
  identified : descriptor.id.isSet = true
  unmentioned : ∀ claim ∈ request.claims, claim.capability.toText ≠ descriptor.id.toText

section Absences

variable {registry : Registry} {request : PublicationRequest} {runtime : PublisherRuntime}
  {grant : AuthorityGrant}

theorem mem_impliedAbsences {absence : CapabilityClaim}
    (hValid : validateRequest registry request = .ok (runtime, grant))
    (hMode : request.mode = .fullSnapshot) :
    absence ∈ impliedAbsences registry request ↔
      ∃ descriptor, LeavesOut registry request descriptor ∧
        absence = impliedAbsence grant request descriptor := by
  have hGranted := (validateRequest_ok hValid).granted
  have hMem : ∀ descriptor, descriptor ∈ registry.schema.descriptors ↔
      descriptor ∈ registry.schema.table := fun _ => (sortBy_perm _ _).mem_iff
  unfold impliedAbsences absenceClaims
  rw [hValid]
  dsimp only
  constructor
  · intro hAbsent
    split at hAbsent
    · rename_i hFull
      rw [Bool.and_eq_true, beq_iff_eq] at hFull
      obtain ⟨descriptor, hKept, rfl⟩ := List.mem_map.1 hAbsent
      obtain ⟨hDeclared, hLeft⟩ := List.mem_filter.1 hKept
      simp only [Bool.and_eq_true, Bool.not_eq_true', List.any_eq_false, beq_iff_eq] at hLeft
      obtain ⟨⟨⟨hNegative, hSet⟩, hUnmentioned⟩, hAllowed⟩ := hLeft
      exact ⟨descriptor, ⟨hMode, hFull.2, ⟨grant, hGranted, hFull.1, hAllowed⟩,
        (hMem _).1 hDeclared, hNegative, hSet, hUnmentioned⟩, rfl⟩
    · cases hAbsent
  · rintro ⟨descriptor, hLeft, rfl⟩
    obtain ⟨held, hHeld, hExclusive, hAllowed⟩ := hLeft.owned
    obtain rfl : grant = held := Option.some.inj (hGranted.symm.trans hHeld)
    rw [if_pos (by rw [hExclusive, hLeft.enumerated]; rfl)]
    refine List.mem_map.2 ⟨descriptor, List.mem_filter.2 ⟨(hMem _).2 hLeft.declared, ?_⟩, rfl⟩
    simp only [Bool.and_eq_true, Bool.not_eq_true', List.any_eq_false, beq_iff_eq]
    exact ⟨⟨⟨hLeft.negative, hLeft.identified⟩, hLeft.unmentioned⟩, hAllowed⟩

theorem snapshot_edits (hShape : checkShape request = .ok ())
    (hMode : request.mode ≠ .incremental) : request.edits = [] := by
  unfold checkShape at hShape
  rw [ite_failure_eq_ok, ite_failure_eq_ok, ite_failure_eq_ok, ite_failure_eq_ok,
    ite_failure_eq_ok, ite_failure_eq_ok, ite_failure_eq_ok] at hShape
  obtain ⟨-, -, -, -, -, -, hEdits, -⟩ := hShape
  simpa [hMode] using hEdits

/-- Without a value only a boolean capability can be claimed unsupported. -/
theorem impliedAbsence_shape (descriptor : CapabilityDescriptor) :
    validateClaimShape descriptor (impliedAbsence grant request descriptor) = .ok () ↔
      descriptor.kind = .boolean := by
  unfold validateClaimShape impliedAbsence
  dsimp only
  rw [if_pos (by rfl), ite_failure_eq_ok]
  simp

end Absences

/-! ## The records of a commit -/

section Created

variable {attempt : Attempt} {runtime : PublisherRuntime} {grant : AuthorityGrant}

/-- A record for a capability that the request does not name reports an absence. -/
theorem created_unnamed (hCommitted : attempt.committed = true)
    (hValid : validateRequest attempt.before attempt.request = .ok (runtime, grant))
    {record : EvidenceRecord} (hCreated : record ∈ attempt.created)
    (hUnnamed : record.capability ∉ attempt.request.named) :
    ∃ descriptor, LeavesOut attempt.before attempt.request descriptor ∧
      record.report = impliedAbsence grant attempt.request descriptor := by
  have hReport : record.report ∈ (publicationSteps attempt.before attempt.request).flatMap
      ApplyStep.reports := created_report hCommitted ▸ List.mem_map_of_mem hCreated
  obtain ⟨step, hStep, hReport⟩ := List.mem_flatMap.1 hReport
  rw [publicationSteps, hValid] at hStep
  cases applySteps_from step hStep with
  | others => cases hReport
  | identity => cases hReport
  | withdrawal => cases hReport
  | supersession _ _ _ hCounts => rcases hCounts with rfl | rfl <;> cases hReport
  | claim _ hClaim =>
      have hCapability := congrArg CapabilityClaim.capability (List.mem_singleton.1 hReport)
      refine absurd (List.mem_append_left _ ?_) hUnnamed
      exact List.mem_map.2 ⟨_, hClaim, hCapability.symm⟩
  | edit _ hEdit =>
      have hCapability := congrArg CapabilityClaim.capability (List.mem_singleton.1 hReport)
      refine absurd (List.mem_append_right _ ?_) hUnnamed
      exact List.mem_map.2 ⟨_, hEdit, (effectiveClaim_capability _).symm.trans hCapability.symm⟩
  | @absence absence hMode hExclusive hFull hAbsent =>
      have hImplied : absence ∈ impliedAbsences attempt.before attempt.request := by
        rw [impliedAbsences, hValid]
        dsimp only
        rw [if_pos (by rw [hExclusive, hFull]; rfl)]
        exact hAbsent
      obtain ⟨descriptor, hLeft, rfl⟩ := (mem_impliedAbsences hValid hMode).1 hImplied
      exact ⟨descriptor, hLeft, List.mem_singleton.1 hReport⟩

/-- A capability that is left out gets its record. -/
theorem leftOut_created (hCommitted : attempt.committed = true)
    (hValid : validateRequest attempt.before attempt.request = .ok (runtime, grant))
    {descriptor : CapabilityDescriptor}
    (hLeft : LeavesOut attempt.before attempt.request descriptor) :
    ∃ record ∈ attempt.created,
      record.report = impliedAbsence grant attempt.request descriptor ∧
        record.capability ∉ attempt.request.named := by
  have hAbsent := (mem_impliedAbsences hValid hLeft.snapshot).2 ⟨descriptor, hLeft, rfl⟩
  have hStep : .applyClaim (impliedAbsence grant attempt.request descriptor) .fullEnumeration ∈
      publicationSteps attempt.before attempt.request := by
    rw [publicationSteps, hValid]
    dsimp only
    rw [applySteps, hLeft.snapshot]
    dsimp only
    rw [fullSnapshotSteps_eq hValid]
    exact List.mem_append_right _ (List.mem_append_right _ (List.mem_append_right _
      (List.mem_map_of_mem hAbsent)))
  have hReport : impliedAbsence grant attempt.request descriptor ∈
      attempt.created.map EvidenceRecord.report := by
    rw [created_report hCommitted]
    exact List.mem_flatMap.2 ⟨_, hStep, List.mem_singleton_self _⟩
  obtain ⟨record, hCreated, hRecord⟩ := List.mem_map.1 hReport
  refine ⟨record, hCreated, hRecord, ?_⟩
  have hCapability : record.capability = descriptor.id :=
    congrArg CapabilityClaim.capability hRecord
  -- a snapshot carries no edits, and its claims do not mention the capability
  have hMode : attempt.request.mode ≠ .incremental := by
    rw [hLeft.snapshot]
    decide
  have hEdits := snapshot_edits (validateRequest_ok hValid).shape hMode
  rw [PublicationRequest.named, hEdits, List.map_nil, List.append_nil, hCapability]
  intro hNamed
  obtain ⟨claim, hClaim, hSame⟩ := List.mem_map.1 hNamed
  exact hLeft.unmentioned claim hClaim (congrArg CapabilityId.toText hSame)

end Created

/-! ## Soundness -/

/-- A record for a capability that was not reported, as the documentation allows it. -/
structure SoundAbsence (registry : Registry) (request : PublicationRequest)
    (record : EvidenceRecord) : Prop where
  enumerated : request.mode = .fullSnapshot ∧ request.coverage = .fullEnumeration
  exclusive : ∃ grant, registry.findGrant request.authority.scope = some grant ∧
    grant.exclusive = true
  shaped : ∃ descriptor, registry.schema.find record.capability = .ok descriptor ∧
    descriptor.absenceIsNegative = true ∧ validateClaimShape descriptor record.report = .ok ()
  direct : isLiveProcessObservation record.provenance = true
  claimed : ∃ claim ∈ request.claims, claim.provenance = record.provenance

theorem find_of_mem {schema : CapabilitySchema} (hDistinct : schema.Distinct)
    {descriptor : CapabilityDescriptor} (hMem : descriptor ∈ schema.table) :
    schema.find descriptor.id = .ok descriptor := by
  have hFound : schema.lookup descriptor.id = some descriptor := lookup_of_mem hDistinct hMem
  rw [CapabilitySchema.find, hFound]

/-- The records of a commit for capabilities that its request does not name are sound exactly
when what is left out is boolean and the first claim is a direct observation. -/
theorem absences_sound_iff (options : Options) (operations : List Operation)
    (request : PublicationRequest)
    (hCommitted : Attempt.committed ⟨afterRun options operations, request⟩ = true) :
    (∀ record ∈ Attempt.created ⟨afterRun options operations, request⟩,
      record.capability ∉ request.named →
        SoundAbsence (afterRun options operations) request record) ↔
    ∀ descriptor, LeavesOut (afterRun options operations) request descriptor →
      descriptor.kind = .boolean ∧ ∃ claim, request.claims.head? = some claim ∧
        isLiveProcessObservation claim.provenance = true := by
  obtain ⟨result, ⟨c⟩⟩ := Attempt.committed_stages hCommitted
  have hValid := c.valid
  dsimp only at hValid
  have hDistinct := run_distinct options operations
  constructor
  · intro hSound descriptor hLeft
    obtain ⟨record, hCreated, hReport, hUnnamed⟩ := leftOut_created hCommitted hValid hLeft
    have hRecord := hSound record hCreated hUnnamed
    obtain ⟨found, hFound, -, hShape⟩ := hRecord.shaped
    have hCapability : record.capability = descriptor.id :=
      congrArg CapabilityClaim.capability hReport
    rw [hCapability, find_of_mem hDistinct hLeft.declared, Except.ok.injEq] at hFound
    subst hFound
    rw [hReport, impliedAbsence_shape] at hShape
    refine ⟨hShape, ?_⟩
    obtain ⟨claim, hClaim, -⟩ := hRecord.claimed
    have hProvenance := congrArg CapabilityClaim.provenance hReport
    have hDirect := hRecord.direct
    cases hHead : request.claims with
    | nil =>
        rw [hHead] at hClaim
        cases hClaim
    | cons first rest =>
        refine ⟨first, rfl, ?_⟩
        have hFirst : record.provenance = first.provenance := by
          rw [show record.provenance = record.report.provenance from rfl, hProvenance]
          show (request.claims.head?.map _).getD _ = _
          rw [hHead]
          rfl
        rw [← hFirst]
        exact hDirect
  · intro hCondition record hCreated hUnnamed
    obtain ⟨descriptor, hLeft, hReport⟩ := created_unnamed hCommitted hValid hCreated hUnnamed
    obtain ⟨hBoolean, first, hHead, hDirect⟩ := hCondition descriptor hLeft
    have hCapability : record.capability = descriptor.id :=
      congrArg CapabilityClaim.capability hReport
    have hProvenance : record.provenance = first.provenance := by
      have hSame := congrArg CapabilityClaim.provenance hReport
      rw [show record.provenance = record.report.provenance from rfl, hSame]
      show (request.claims.head?.map _).getD _ = _
      rw [hHead]
      rfl
    obtain ⟨grant, hGrant, hExclusive, -⟩ := hLeft.owned
    exact {
      enumerated := ⟨hLeft.snapshot, hLeft.enumerated⟩
      exclusive := ⟨grant, hGrant, hExclusive⟩
      shaped := ⟨descriptor, hCapability ▸ find_of_mem hDistinct hLeft.declared, hLeft.negative,
        by rw [hReport, impliedAbsence_shape]; exact hBoolean⟩
      direct := by rw [hProvenance]; exact hDirect
      claimed := ⟨first, List.mem_of_mem_head? hHead, hProvenance.symm⟩ }

/-! ### A declared surface -/

namespace Sample

/-- The scope owns the queue capabilities and the virtualization capabilities. -/
def wideGrant : AuthorityGrant :=
  { grant with namespaces := [queueNamespace, virtualizationNamespace], exclusive := true }

def wideSetup : List Operation :=
  [.declareAuthority wideGrant, .registerPublisher publisher scope bootOne]

/-- An administrator declares one capability and calls it the whole surface. -/
def declaredSurface : PublicationRequest :=
  { snapshot "attempt-1" 0 with coverage := .fullEnumeration }

end Sample

theorem declaredSurface_created :
    Attempt.committed ⟨afterRun {} Sample.wideSetup, Sample.declaredSurface⟩ = true ∧
    ∃ record ∈ Attempt.created ⟨afterRun {} Sample.wideSetup, Sample.declaredSurface⟩,
      record.capability ∉ Sample.declaredSurface.named ∧
        isLiveProcessObservation record.provenance = false := by
  decide +kernel

theorem declared_surface_sound_iff :
    (∀ record ∈ Attempt.created ⟨afterRun {} Sample.wideSetup, Sample.declaredSurface⟩,
      record.capability ∉ Sample.declaredSurface.named →
        SoundAbsence (afterRun {} Sample.wideSetup) Sample.declaredSurface record) ↔
    ∀ descriptor, LeavesOut (afterRun {} Sample.wideSetup) Sample.declaredSurface descriptor →
      descriptor.kind = .boolean ∧ ∃ claim, Sample.declaredSurface.claims.head? = some claim ∧
        isLiveProcessObservation claim.provenance = true :=
  absences_sound_iff {} Sample.wideSetup Sample.declaredSurface declaredSurface_created.1

/-- A declaration implies an absence that no device was asked about. -/
theorem declared_absence_is_recorded :
    Attempt.committed ⟨afterRun {} Sample.wideSetup, Sample.declaredSurface⟩ = true ∧
    ∃ record ∈ Attempt.created ⟨afterRun {} Sample.wideSetup, Sample.declaredSurface⟩,
      record.capability ∉ Sample.declaredSurface.named ∧
        ¬SoundAbsence (afterRun {} Sample.wideSetup) Sample.declaredSurface record := by
  obtain ⟨hCommitted, record, hCreated, hUnnamed, hDeclared⟩ := declaredSurface_created
  refine ⟨hCommitted, record, hCreated, hUnnamed, fun hSound => ?_⟩
  exact absurd (hDeclared.symm.trans hSound.direct) nofun

end FabricCapability.Ports

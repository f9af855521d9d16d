import FabricCapability.Ports.ClaimOrder
import FabricCapability.Ports.NewestRecord

/-!
# The first claim of a request

The first claim lends its provenance and its source class to the absences that a snapshot
implies.  Two orders of the claims answer alike when this does not show: nothing is left
out, or for each capability that is left out the two first claims have the same origin, or
the evidence that the snapshot leaves standing hides the difference.

The other thing that looks at the order is the replay of the latest attempt.

## Main results

* `impliedAlike_iff`: the implied absences in terms of the first claims.
* `claim_order_iff`: when the order of the claims of a request does not matter.
-/

namespace FabricCapability.Ports

open FabricCapability.Verified.KeyedList
open FabricCapability.Verified.StrictOrder

/-! ## The evidence before the claims -/

/-- The entry that a publication starts from; a new generation starts from nothing. -/
def Registry.standing (registry : Registry) (request : PublicationRequest)
    (capability : CapabilityId) : CapabilityEntry :=
  match registry.findEntity request.entity with
  | some held =>
      if held.currentGeneration = request.entityGeneration then held.entryOf capability
      else { id := capability }
  | none => { id := capability }

/-- The live records that an exclusive snapshot does not supersede. -/
def survivors (request : PublicationRequest) (evidence : List EvidenceRecord) :
    List EvidenceRecord :=
  (liveRecords evidence).filter fun record =>
    !liveOfOthers request.publisherKey record && !liveOf request.sourceKey record

section Evidence

variable {registry bound : Registry} {request : PublicationRequest} {grant : AuthorityGrant}
  {entity : EntityState} {cell : Cell}

theorem standing_bound (hBind : bindEntity registry request = (bound, .ok entity))
    (capability : CapabilityId) :
    registry.standing request capability = entity.entryOf capability := by
  obtain ⟨-, hGeneration, -, ⟨-, hFound⟩ | ⟨hFresh, -, hBelow⟩⟩ := bindEntity_ok hBind
  · rw [Registry.standing, hFound]
    exact if_pos hGeneration
  · rw [EntityState.entryOf_empty hFresh.capabilities, Registry.standing]
    cases hHeld : registry.findEntity request.entity with
    | none => rfl
    | some held =>
        refine if_neg fun hEq => ?_
        exact UInt64.lt_irrefl _ (hEq ▸ hBelow held hHeld)

theorem nextEvidenceGeneration_relabel (matching : EvidenceRecord → Bool)
    (currentness : EvidenceCurrentness) (reason : ReasonToken) (key : SourceKey)
    {entry later : CapabilityEntry}
    (h : later.evidence = relabel matching currentness reason entry.evidence) :
    nextEvidenceGeneration later key = nextEvidenceGeneration entry key := by
  unfold nextEvidenceGeneration
  dsimp only
  rw [h, relabel, List.foldl_map]
  have hSame : ∀ record : EvidenceRecord,
      (if matching record then { record with currentness, reason } else record).source =
          record.source ∧
        (if matching record then { record with currentness, reason } else record).workerBoot =
          record.workerBoot ∧
        (if matching record then { record with currentness, reason }
          else record).evidenceGeneration = record.evidenceGeneration := by
    intro record
    split <;> exact ⟨rfl, rfl, rfl⟩
  simp only [(hSame _).1, (hSame _).2.1, (hSame _).2.2]

theorem EntryChange.relabels_others {entry later : CapabilityEntry}
    (h : EntryChange registry request cell .supersedeOtherIdentities true entry later) :
    later.evidence =
      relabel (liveOfOthers request.publisherKey) .superseded request.reason entry.evidence := by
  cases h with
  | superseded selects _ =>
      cases selects
      rfl

/-- What the supersessions of an exclusive snapshot make of the evidence of an entry. -/
theorem opened_evidence (hMode : request.mode = .fullSnapshot)
    (hExclusive : grant.exclusive = true) (capability : CapabilityId) :
    ((openedCell bound grant request entity).entity.entryOf capability).evidence =
      relabel (liveOf request.sourceKey) .superseded request.reason
        (relabel (liveOfOthers request.publisherKey) .superseded request.reason
          (entity.entryOf capability).evidence) := by
  let cell := bound.cell entity
  let others := cell.relabelEntity (liveOfOthers request.publisherKey) .superseded
    request.reason
  have hOpened : openedCell bound grant request entity =
      others.relabelEntity (liveOf request.sourceKey) .superseded request.reason := by
    unfold openedCell openingSteps
    rw [hMode, hExclusive]
    rfl
  have hOthers : (others.entity.entryOf capability).evidence =
      relabel (liveOfOthers request.publisherKey) .superseded request.reason
        (cell.entity.entryOf capability).evidence :=
    @entryStep_relabel bound request cell .supersedeOtherIdentities _ _
      (liveOfOthers request.publisherKey)
      (fun hChange => hChange.relabels_others) (relabel_entryOf rfl)
  have hOwn : ((others.relabelEntity (liveOf request.sourceKey) .superseded
      request.reason).entity.entryOf capability).evidence =
        relabel (liveOf request.sourceKey) .superseded request.reason
          (others.entity.entryOf capability).evidence :=
    @entryStep_relabel bound request others .supersedeIdentity _ _ (liveOf request.sourceKey)
      (fun hChange => hChange.relabels_own (.inl rfl)) (relabel_entryOf rfl)
  rw [hOpened, hOwn, hOthers]
  rfl

/-- The live records that the record of an implied absence joins. -/
theorem liveRecords_retained (hMode : request.mode = .fullSnapshot)
    (hExclusive : grant.exclusive = true)
    (hBind : bindEntity registry request = (bound, .ok entity)) (capability : CapabilityId) :
    liveRecords (retainedEvidence bound request
        ((openedCell bound grant request entity).entity.entryOf capability)) =
      survivors request (registry.standing request capability).evidence := by
  rw [retainedEvidence, liveRecords_trim, liveRecords_relabel,
    opened_evidence hMode hExclusive, liveRecords_relabel, liveRecords_relabel,
    standing_bound hBind, survivors, List.filter_filter, List.filter_filter]
  refine List.filter_congr fun record _ => ?_
  cases liveOfOthers request.publisherKey record <;>
    cases liveOf request.sourceKey record <;> rfl

theorem opened_generation (hMode : request.mode = .fullSnapshot)
    (hExclusive : grant.exclusive = true)
    (hBind : bindEntity registry request = (bound, .ok entity)) (capability : CapabilityId) :
    nextEvidenceGeneration ((openedCell bound grant request entity).entity.entryOf capability)
        request.sourceKey =
      nextEvidenceGeneration (registry.standing request capability) request.sourceKey := by
  let others : CapabilityEntry :=
    { entity.entryOf capability with
      evidence := relabel (liveOfOthers request.publisherKey) .superseded request.reason
        (entity.entryOf capability).evidence }
  calc nextEvidenceGeneration _ request.sourceKey
      = nextEvidenceGeneration others request.sourceKey :=
        nextEvidenceGeneration_relabel _ _ _ _ (opened_evidence hMode hExclusive capability)
    _ = nextEvidenceGeneration (entity.entryOf capability) request.sourceKey :=
        nextEvidenceGeneration_relabel _ _ _ _ rfl
    _ = _ := by rw [standing_bound hBind]

end Evidence

/-! ## The implied absences -/

/-- The first claims of both orders make no difference to what is left out. -/
def FirstClaimsAlike (registry : Registry) (request : PublicationRequest)
    (claims : List CapabilityClaim) : Prop :=
  ∀ descriptor, LeavesOut registry request descriptor →
    ∀ first ∈ request.claims.head?, ∀ later ∈ claims.head?,
      SourcedAlike (survivors request (registry.standing request descriptor.id).evidence)
        (nextEvidenceGeneration (registry.standing request descriptor.id) request.sourceKey)
        request.sourceKey (first.provenance, first.sourceClass)
        (later.provenance, later.sourceClass)

/-- The origin that an implied absence takes from the claims. -/
def impliedOrigin (grant : AuthorityGrant) (claims : List CapabilityClaim) :
    ProvenanceClass × EvidenceSourceClass :=
  ((claims.head?.map (·.provenance)).getD grant.strongestProvenance,
    (claims.head?.map (·.sourceClass)).getD .hardwareEnumeration)

section Implied

variable {registry bound : Registry} {request : PublicationRequest} {grant : AuthorityGrant}
  {runtime : PublisherRuntime} {entity : EntityState} {claims : List CapabilityClaim}

/-- Only the live records of the evidence matter. -/
theorem sourcedAlike_live {evidence : List EvidenceRecord} {generation : EvidenceGeneration}
    {key : SourceKey} {first second : ProvenanceClass × EvidenceSourceClass} :
    SourcedAlike evidence generation key first second ↔
      SourcedAlike (liveRecords evidence) generation key first second := by
  have hTwice : liveRecords (liveRecords evidence) = liveRecords evidence := by
    rw [liveRecords, liveRecords, List.filter_filter]
    simp only [Bool.and_self]
  unfold SourcedAlike Outclassed
  rw [hTwice]

theorem mem_leftOut (hGranted : registry.findGrant request.authority.scope = some grant)
    (descriptor : CapabilityDescriptor) :
    descriptor ∈ leftOut registry.schema grant request ↔
      LeavesOut registry request descriptor := by
  have hMem : descriptor ∈ registry.schema.descriptors ↔ descriptor ∈ registry.schema.table :=
    (sortBy_perm _ _).mem_iff
  unfold leftOut
  constructor
  · intro hLeft
    split at hLeft
    · rename_i hFull
      simp only [Bool.and_eq_true, beq_iff_eq] at hFull
      obtain ⟨hDeclared, hKept⟩ := List.mem_filter.1 hLeft
      simp only [Bool.and_eq_true, Bool.not_eq_true', List.any_eq_false, beq_iff_eq] at hKept
      obtain ⟨⟨⟨hNegative, hSet⟩, hUnmentioned⟩, hAllowed⟩ := hKept
      exact ⟨hFull.1.1, hFull.2, ⟨grant, hGranted, hFull.1.2, hAllowed⟩, hMem.1 hDeclared,
        hNegative, hSet, hUnmentioned⟩
    · cases hLeft
  · intro hLeft
    obtain ⟨held, hHeld, hExclusive, hAllowed⟩ := hLeft.owned
    obtain rfl : grant = held := Option.some.inj (hGranted.symm.trans hHeld)
    rw [if_pos (by rw [hLeft.snapshot, hLeft.enumerated, hExclusive]; rfl)]
    refine List.mem_filter.2 ⟨hMem.2 hLeft.declared, ?_⟩
    simp only [Bool.and_eq_true, Bool.not_eq_true', List.any_eq_false, beq_iff_eq]
    exact ⟨⟨⟨hLeft.negative, hLeft.identified⟩, hLeft.unmentioned⟩, hAllowed⟩

/-- Two implied absences for one capability, in the entry that they are made for. -/
theorem claimed_implied_iff {descriptor : CapabilityDescriptor}
    (hMode : request.mode = .fullSnapshot) (hExclusive : grant.exclusive = true)
    (hBind : bindEntity registry request = (bound, .ok entity)) :
    (openedCell bound grant request entity).claimed bound request
        (impliedAbsence grant { request with claims } descriptor, .fullEnumeration) =
      (openedCell bound grant request entity).claimed bound request
        (impliedAbsence grant request descriptor, .fullEnumeration) ↔
    SourcedAlike (survivors request (registry.standing request descriptor.id).evidence)
      (nextEvidenceGeneration (registry.standing request descriptor.id) request.sourceKey)
      request.sourceKey (impliedOrigin grant request.claims) (impliedOrigin grant claims) := by
  let cell := openedCell bound grant request entity
  let entry := cell.entity.entryOf descriptor.id
  let record := appendedRecord bound request cell (impliedAbsence grant request descriptor)
    .fullEnumeration entry
  have hClaimed : ∀ order : List CapabilityClaim,
      cell.claimed bound request
          (impliedAbsence grant { request with claims := order } descriptor, .fullEnumeration) =
        (entry.id, computeResolution cell.entity.id cell.entity.boundGeneration
          (({ entry with generation := nextOrSame entry.generation } : CapabilityEntry).sourced
            (retainedEvidence bound request entry) record (impliedOrigin grant order))) := by
    intro order
    have hTarget : cell.target (impliedAbsence grant { request with claims := order } descriptor) =
        entry := by
      dsimp only [Cell.target, impliedAbsence]
      rfl
    have hRecord : appendedRecord bound request cell
        (impliedAbsence grant { request with claims := order } descriptor) .fullEnumeration entry =
          record.sourced (impliedOrigin grant order).1 (impliedOrigin grant order).2 := by
      dsimp only [record, appendedRecord, newRecord, EvidenceRecord.sourced, impliedAbsence,
        impliedOrigin]
    rw [Cell.claimed, hTarget, appliedEntry_shown, hRecord, CapabilityEntry.sourced]
  have hGeneration : record.evidenceGeneration =
      nextEvidenceGeneration (registry.standing request descriptor.id) request.sourceKey :=
    opened_generation hMode hExclusive hBind descriptor.id
  have hLive := @liveRecords_retained registry bound request grant entity hMode hExclusive hBind
    descriptor.id
  rw [eq_comm, hClaimed, hClaimed, Prod.mk.injEq, and_iff_right rfl, resolution_sourced_iff rfl,
    sourcedAlike_live, hGeneration, hLive]
  exact Iff.rfl

/-- A reflexive relation of the origins is one of the first claims. -/
theorem impliedOrigin_iff
    {P : ProvenanceClass × EvidenceSourceClass → ProvenanceClass × EvidenceSourceClass → Prop}
    (hRefl : ∀ origin, P origin origin) {spoken : List CapabilityClaim}
    (hPerm : claims.Perm spoken) :
    P (impliedOrigin grant spoken) (impliedOrigin grant claims) ↔
      ∀ first ∈ spoken.head?, ∀ later ∈ claims.head?,
        P (first.provenance, first.sourceClass) (later.provenance, later.sourceClass) := by
  cases spoken with
  | nil =>
      rw [hPerm.eq_nil]
      exact iff_of_true (hRefl _) fun _ hFirst => by cases hFirst
  | cons first rest =>
      cases claims with
      | nil => cases hPerm.nil_eq
      | cons later others =>
          constructor
          · rintro hAlike _ ⟨⟩ _ ⟨⟩
            exact hAlike
          · intro hAlike
            exact hAlike first rfl later rfl

/-- The implied absences in terms of the first claims. -/
theorem impliedAlike_iff (h : BothValid registry request claims runtime grant bound entity) :
    ImpliedAlike bound grant entity request claims ↔
      FirstClaimsAlike registry request claims := by
  have hGranted := (validateRequest_ok h.valid).granted
  unfold ImpliedAlike FirstClaimsAlike
  refine forall_congr' fun descriptor => ?_
  rw [h.schema_eq, mem_leftOut hGranted]
  refine forall_congr' fun hLeft => ?_
  obtain ⟨held, hHeld, hExclusive, -⟩ := hLeft.owned
  obtain rfl : grant = held := Option.some.inj (hGranted.symm.trans hHeld)
  rw [claimed_implied_iff hLeft.snapshot hExclusive h.binds]
  exact impliedOrigin_iff (fun _ => .inl rfl) h.reordered

end Implied

/-! ## Every outcome -/

section Answers

variable {registry bound : Registry} {request : PublicationRequest} {grant : AuthorityGrant}
  {runtime : PublisherRuntime} {entity : EntityState} {claims : List CapabilityClaim}

/-- The latest attempt of the publisher is replayed or refused. -/
theorem publishBound_latest {latest : ReplayRecord}
    (hLatest : runtime.replay.getLast? = some latest)
    (hAttempt : latest.attempt = request.attempt) :
    publicationStatus (publishBound bound request runtime grant entity).2 =
      some (if latest.contentDigest = (requestContentDigest request grant).toText then
        .idempotentReplay else .rejected) := by
  unfold publishBound classifyAttempt
  dsimp only
  rw [hLatest]
  dsimp only
  rw [if_pos hAttempt]
  by_cases hSame : latest.contentDigest = (requestContentDigest request grant).toText
  · rw [if_neg (not_not.2 hSame), if_pos hSame]
    rfl
  · rw [if_pos hSame, if_neg hSame]
    rfl

/-- A refusal of stage 7 that does not look at the claims. -/
theorem publishBound_stale {latest : ReplayRecord}
    (hLatest : runtime.replay.getLast? = some latest)
    (hAttempt : latest.attempt ≠ request.attempt)
    (hKnown : runtime.replay.any (fun record => record.attempt = request.attempt) = true) :
    publicationStatus (publishBound bound request runtime grant entity).2 = some .rejected := by
  unfold publishBound classifyAttempt
  dsimp only
  rw [hLatest]
  dsimp only
  rw [if_neg hAttempt, if_pos hKnown]
  rfl

theorem publishBound_unmet {e : Error}
    (hFresh : classifyAttempt runtime request (requestContentDigest request grant).toText =
      .ok none) (hUnmet : checkPreconditions entity request = .error e) :
    publicationStatus (publishBound bound request runtime grant entity).2 = some .rejected := by
  unfold publishBound
  dsimp only
  rw [hFresh]
  dsimp only
  rw [hUnmet]
  rfl

/-- Two requests that are both answered without a commit. -/
theorem sameAnswer_answered {first second : Attempt} {status later : PublicationStatus}
    (hFirst : publicationStatus first.result = some status)
    (hSecond : publicationStatus second.result = some later)
    (hStatus : status ≠ .committed) (hLater : later ≠ .committed) :
    (SameAnswer first second ↔ later = status) ∧
      ¬(first.committed = true ∨ second.committed = true) := by
  have hUncommitted : publicationStatus first.result ≠ some .committed := by
    rw [hFirst, Ne, Option.some.injEq]
    exact hStatus
  rw [sameAnswer_uncommitted hUncommitted, committed_iff, committed_iff, hFirst, hSecond,
    Option.some.injEq, Option.some.injEq, Option.some.injEq]
  exact ⟨Iff.rfl, fun hEither => hEither.elim hStatus hLater⟩

section Orders

variable (h : BothValid registry request claims runtime grant bound entity)

include h

theorem result_first : Attempt.result ⟨registry, request⟩ =
    (publishBound bound request runtime grant entity).2 :=
  congrArg Prod.snd (publish_bound h.valid h.binds)

theorem result_second : Attempt.result ⟨registry, { request with claims }⟩ =
    (publishBound bound { request with claims } runtime grant entity).2 :=
  congrArg Prod.snd (publish_bound h.validLater (bindEntity_reordered.trans h.binds))

/-- An attempt that is new, whether or not its preconditions hold. -/
theorem new_answer_iff
    (hFresh : ∀ digest, classifyAttempt runtime request digest = .ok none) :
    SameAnswer ⟨registry, request⟩ ⟨registry, { request with claims }⟩ ↔
      (Attempt.committed ⟨registry, request⟩ = true ∨
          Attempt.committed ⟨registry, { request with claims }⟩ = true →
        ImpliedAlike bound grant entity request claims) := by
  cases hChecked : checkPreconditions entity request with
  | ok u => exact h.fresh_answer_iff hFresh hChecked
  | error e =>
      obtain ⟨hSame, hNeither⟩ := sameAnswer_answered
        ((congrArg publicationStatus (result_first h)).trans
          (publishBound_unmet (hFresh _) hChecked))
        ((congrArg publicationStatus (result_second h)).trans
          (@publishBound_unmet _ { request with claims } _ _ _ _ (hFresh _) hChecked))
        nofun nofun
      exact iff_of_true (hSame.2 rfl) fun hEither => absurd hEither hNeither

/-- Both orders of a request that stages 1 to 6 let pass. -/
theorem valid_answer_iff :
    SameAnswer ⟨registry, request⟩ ⟨registry, { request with claims }⟩ ↔
      (∀ latest ∈ runtime.replay.getLast?, latest.attempt = request.attempt →
        (latest.contentDigest = (requestContentDigest request grant).toText ↔
          latest.contentDigest = (requestContentDigest { request with claims } grant).toText)) ∧
      (Attempt.committed ⟨registry, request⟩ = true ∨
          Attempt.committed ⟨registry, { request with claims }⟩ = true →
        ImpliedAlike bound grant entity request claims) := by
  cases hLatest : runtime.replay.getLast? with
  | none =>
      have hFresh : ∀ digest, classifyAttempt runtime request digest = .ok none := by
        intro digest
        unfold classifyAttempt
        rw [hLatest]
      rw [new_answer_iff h hFresh, and_iff_right fun _ hMem => by cases hMem]
  | some latest =>
      by_cases hAttempt : latest.attempt = request.attempt
      · obtain ⟨hSame, hNeither⟩ := sameAnswer_answered
          ((congrArg publicationStatus (result_first h)).trans
            (publishBound_latest hLatest hAttempt))
          ((congrArg publicationStatus (result_second h)).trans
            (@publishBound_latest _ { request with claims } _ _ _ _ hLatest hAttempt))
          (by split <;> exact nofun) (by split <;> exact nofun)
        rw [hSame, and_iff_left fun hEither => absurd hEither hNeither]
        constructor
        · rintro hStatus _ ⟨⟩ -
          split at hStatus <;> split at hStatus <;> simp_all
        · intro hDigests
          have hDigest := hDigests latest rfl hAttempt
          by_cases hFirst : latest.contentDigest = (requestContentDigest request grant).toText
          · rw [if_pos hFirst, if_pos (hDigest.1 hFirst)]
          · rw [if_neg hFirst, if_neg fun hLater => hFirst (hDigest.2 hLater)]
      · have hNone : ∀ held ∈ some latest, held.attempt = request.attempt →
            (held.contentDigest = (requestContentDigest request grant).toText ↔
              held.contentDigest =
                (requestContentDigest { request with claims } grant).toText) := by
          rintro _ ⟨⟩ hEq
          exact absurd hEq hAttempt
        rw [and_iff_right hNone]
        by_cases hKnown : runtime.replay.any (fun record => record.attempt = request.attempt) = true
        · obtain ⟨hSame, hNeither⟩ := sameAnswer_answered
            ((congrArg publicationStatus (result_first h)).trans
              (publishBound_stale hLatest hAttempt hKnown))
            ((congrArg publicationStatus (result_second h)).trans
              (@publishBound_stale _ { request with claims } _ _ _ _ hLatest hAttempt hKnown))
            nofun nofun
          exact iff_of_true (hSame.2 rfl) fun hEither => absurd hEither hNeither
        · refine new_answer_iff h fun digest => ?_
          unfold classifyAttempt
          rw [hLatest]
          dsimp only
          rw [if_neg hAttempt, if_neg hKnown]

end Orders

theorem publish_invalid {e : Error} (h : validateRequest registry request = .error e) :
    publicationStatus (Attempt.result ⟨registry, request⟩) = some .rejected := by
  rw [Attempt.result, publish, h]
  rfl

/-- How a refusal of stage 6 is answered. -/
def Refusal.status : Refusal → Option PublicationStatus
  | rejected _ => some .rejected
  | failed _ => none

theorem publish_unbound {refusal : Refusal}
    (hValid : validateRequest registry request = .ok (runtime, grant))
    (hBind : bindEntity registry request = (bound, .error refusal)) :
    publicationStatus (Attempt.result ⟨registry, request⟩) = refusal.status := by
  rw [Attempt.result, publish, hValid]
  dsimp only
  rw [hBind]
  cases refusal <;> rfl

/-- Both orders are refused in the same way. -/
theorem refused_answer_iff {Q : Prop} {status : Option PublicationStatus}
    (hFirst : publicationStatus (Attempt.result ⟨registry, request⟩) = status)
    (hSecond : publicationStatus (Attempt.result ⟨registry, { request with claims }⟩) = status)
    (hStatus : status ≠ some .committed) (hReplays : ReplaysAlike registry request claims) :
    SameAnswer ⟨registry, request⟩ ⟨registry, { request with claims }⟩ ↔
      ReplaysAlike registry request claims ∧
      (Attempt.committed ⟨registry, request⟩ = true ∨
          Attempt.committed ⟨registry, { request with claims }⟩ = true → Q) := by
  rw [sameAnswer_uncommitted (hFirst ▸ hStatus), committed_iff, committed_iff, hFirst, hSecond]
  exact iff_of_true rfl ⟨hReplays, fun hEither => hEither.elim (absurd · hStatus) (absurd · hStatus)⟩

/-- When the order of the claims does not matter, in any state with a proper schema. -/
theorem reordered_answer_iff (hSchema : registry.schema.Distinct)
    (hMode : request.mode ≠ .incremental) (hPerm : claims.Perm request.claims) :
    SameAnswer ⟨registry, request⟩ ⟨registry, { request with claims }⟩ ↔
      ReplaysAlike registry request claims ∧
      (Attempt.committed ⟨registry, request⟩ = true ∨
          Attempt.committed ⟨registry, { request with claims }⟩ = true →
        FirstClaimsAlike registry request claims) := by
  cases hValid : validateRequest registry request with
  | error e =>
      cases hLater : validateRequest registry { request with claims } with
      | ok valid =>
          rw [validateRequest_reordered hPerm, hValid] at hLater
          cases hLater
      | error e' =>
          refine refused_answer_iff (publish_invalid hValid) (publish_invalid hLater) nofun ?_
          intro runtime grant bound entity hOk
          rw [hValid] at hOk
          cases hOk
  | ok valid =>
      obtain ⟨runtime, grant⟩ := valid
      have hLater := (validateRequest_reordered hPerm _).2 hValid
      cases hBind : bindEntity registry request with
      | mk bound outcome =>
          cases outcome with
          | error refusal =>
              refine refused_answer_iff (publish_unbound hValid hBind)
                (publish_unbound hLater (bindEntity_reordered.trans hBind))
                (by cases refusal <;> exact nofun) ?_
              intro runtime' grant' bound' entity' _ hOk
              rw [hBind] at hOk
              cases hOk
          | ok entity =>
              have h : BothValid registry request claims runtime grant bound entity :=
                ⟨hMode, hPerm, hSchema, hValid, hBind⟩
              rw [valid_answer_iff h, impliedAlike_iff h]
              refine and_congr_left fun _ => ?_
              constructor
              · intro hDigests runtime' grant' bound' entity' hValid' _
                rw [hValid, Except.ok.injEq, Prod.mk.injEq] at hValid'
                obtain ⟨rfl, rfl⟩ := hValid'
                exact hDigests
              · intro hReplays
                exact hReplays runtime grant bound entity hValid hBind

end Answers

/-- A snapshot or a partial observation answers alike for two orders of its claims exactly
when the latest attempt is a copy of both or of neither, and what is left out does not show
where the first claims come from. -/
theorem claim_order_iff (options : Options) (operations : List Operation)
    (request : PublicationRequest) (claims : List CapabilityClaim)
    (hMode : request.mode ≠ .incremental) (hPerm : claims.Perm request.claims) :
    SameAnswer ⟨afterRun options operations, request⟩
        ⟨afterRun options operations, { request with claims }⟩ ↔
      ReplaysAlike (afterRun options operations) request claims ∧
      (Attempt.committed ⟨afterRun options operations, request⟩ = true ∨
          Attempt.committed ⟨afterRun options operations, { request with claims }⟩ = true →
        FirstClaimsAlike (afterRun options operations) request claims) :=
  reordered_answer_iff (run_distinct options operations) hMode hPerm

/-! ### Two sources in one snapshot -/

namespace Sample

def telemetry : CapabilityId :=
  (CapabilityId.parse (txt "fabric.queue.per_queue_telemetry_supported")).toOption.getD .unset

/-- One claim of the surface is declared and the other one imported; virtualization is left
out. -/
def twoSources : PublicationRequest :=
  { declaredSurface with
    claims :=
      [claim .supported .processBound,
       { claim .supported .processBound with
         capability := telemetry
         provenance := .importedStaticProfile }] }

def twoSourcesReversed : PublicationRequest :=
  { twoSources with claims := twoSources.claims.reverse }

end Sample

theorem two_sources_answer_iff :
    SameAnswer ⟨afterRun {} Sample.wideSetup, Sample.twoSources⟩
        ⟨afterRun {} Sample.wideSetup, Sample.twoSourcesReversed⟩ ↔
      ReplaysAlike (afterRun {} Sample.wideSetup) Sample.twoSources
        Sample.twoSources.claims.reverse ∧
      (Attempt.committed ⟨afterRun {} Sample.wideSetup, Sample.twoSources⟩ = true ∨
          Attempt.committed ⟨afterRun {} Sample.wideSetup, Sample.twoSourcesReversed⟩ = true →
        FirstClaimsAlike (afterRun {} Sample.wideSetup) Sample.twoSources
          Sample.twoSources.claims.reverse) :=
  claim_order_iff {} Sample.wideSetup Sample.twoSources Sample.twoSources.claims.reverse nofun
    (List.reverse_perm _)

theorem twoSources_facts :
    Attempt.committed ⟨afterRun {} Sample.wideSetup, Sample.twoSources⟩ = true ∧
    (afterRun {} Sample.wideSetup).findEntity Sample.twoSources.entity = none ∧
    (afterRun {} Sample.wideSetup).findGrant Sample.twoSources.authority.scope =
      some Sample.wideGrant ∧
    ∃ descriptor ∈ (afterRun {} Sample.wideSetup).schema.table,
      descriptor.absenceIsNegative = true ∧ descriptor.id.isSet = true ∧
      namespaceAllowed Sample.wideGrant descriptor.id.ns = true ∧
      ∀ claim ∈ Sample.twoSources.claims, claim.capability.toText ≠ descriptor.id.toText := by
  decide +kernel

/-- The absence of virtualization is declared in one order and imported in the other. -/
theorem first_claim_lends_its_source :
    ¬SameAnswer ⟨afterRun {} Sample.wideSetup, Sample.twoSources⟩
      ⟨afterRun {} Sample.wideSetup, Sample.twoSourcesReversed⟩ := by
  obtain ⟨hCommitted, hNew, hGrant, descriptor, hDeclared, hNegative, hSet, hAllowed,
    hUnmentioned⟩ := twoSources_facts
  intro hSame
  have hMode : Sample.twoSources.mode ≠ .incremental := nofun
  obtain ⟨-, hAlike⟩ := (reordered_answer_iff (run_distinct {} Sample.wideSetup) hMode
    (List.reverse_perm Sample.twoSources.claims)).1 hSame
  have hLeft : LeavesOut (afterRun {} Sample.wideSetup) Sample.twoSources descriptor :=
    ⟨rfl, rfl, ⟨Sample.wideGrant, hGrant, rfl, hAllowed⟩, hDeclared, hNegative, hSet,
      hUnmentioned⟩
  have hOrigins := hAlike (.inl hCommitted) descriptor hLeft _ rfl _ rfl
  have hNothing : survivors Sample.twoSources ((afterRun {} Sample.wideSetup).standing
      Sample.twoSources descriptor.id).evidence = [] := by
    rw [Registry.standing, hNew]
    rfl
  rw [hNothing] at hOrigins
  rcases hOrigins with hEq | ⟨⟨held, hHeld, -⟩, -⟩ | ⟨hClass, -⟩
  · exact absurd (congrArg Prod.fst hEq) nofun
  · cases hHeld
  · exact absurd hClass nofun

end FabricCapability.Ports

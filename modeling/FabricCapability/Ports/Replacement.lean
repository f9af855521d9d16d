import FabricCapability.Ports.ClaimChecks
import FabricCapability.Ports.EntrySteps
import FabricCapability.Ports.SchemaRuns

/-!
# What a publication replaces

A publication speaks for one identity, a source under a worker boot.  A full snapshot
replaces what that identity holds on the entity: afterwards its live records are those of
the claims, and of the absences that the snapshot implies.  The other modes replace what
they name, and leave the rest of the entity and the records of the other identities alone.

Both are followed through the table of entries: a claim or a withdrawal writes back one
entry, under the capability that it names.

## Main results

* `full_snapshot_replaces`: the live records of the identity after a full snapshot.
* `partial_update_confined`: what the other modes do not touch.
-/

namespace FabricCapability.Ports

open FabricCapability.Verified.KeyedList
open FabricCapability.Verified.Runs
open FabricCapability.Verified.StrictOrder

/-! ## Own and foreign records -/

/-- The live records of an identity. -/
def ownRecords (key : SourceKey) (evidence : List EvidenceRecord) : List EvidenceRecord :=
  (liveRecords evidence).filter (liveOf key)

/-- The live records of the other identities. -/
def foreignRecords (key : SourceKey) (evidence : List EvidenceRecord) : List EvidenceRecord :=
  (liveRecords evidence).filter (!liveOf key ·)

section Records

variable {registry : Registry} {request : PublicationRequest} {cell : Cell}
  {entry : CapabilityEntry} {key : SourceKey} {evidence : List EvidenceRecord}

theorem ownRecords_superseded (reason : ReasonToken) :
    ownRecords key (relabel (liveOf key) .superseded reason evidence) = [] := by
  rw [ownRecords, liveRecords_relabel, List.filter_filter, List.filter_eq_nil_iff]
  intro record _
  cases liveOf key record <;> simp

theorem foreignRecords_superseded (reason : ReasonToken) :
    foreignRecords key (relabel (liveOf key) .superseded reason evidence) =
      foreignRecords key evidence := by
  rw [foreignRecords, foreignRecords, liveRecords_relabel, List.filter_filter]
  exact List.filter_congr fun record _ => Bool.and_self _

theorem liveOf_appended (claim : CapabilityClaim) (coverage : Coverage) :
    liveOf request.sourceKey (appendedRecord registry request cell claim coverage entry) =
      true := by
  simp [liveOf, appendedRecord, newRecord, PublicationRequest.sourceKey, isRetired]

theorem liveRecords_applied (claim : CapabilityClaim) (coverage : Coverage) :
    liveRecords (retainedEvidence registry request entry ++
        [appendedRecord registry request cell claim coverage entry]) =
      liveRecords (relabel (liveOf request.sourceKey) .superseded request.reason entry.evidence) ++
        [appendedRecord registry request cell claim coverage entry] := by
  rw [liveRecords, List.filter_append, ← liveRecords, retainedEvidence, liveRecords_trim]
  rfl

theorem ownRecords_applied (claim : CapabilityClaim) (coverage : Coverage) :
    ownRecords request.sourceKey (retainedEvidence registry request entry ++
        [appendedRecord registry request cell claim coverage entry]) =
      [appendedRecord registry request cell claim coverage entry] := by
  rw [ownRecords, liveRecords_applied, List.filter_append, ← ownRecords, ownRecords_superseded,
    List.nil_append, List.filter_cons, if_pos (liveOf_appended claim coverage)]
  rfl

theorem foreignRecords_applied (claim : CapabilityClaim) (coverage : Coverage) :
    foreignRecords request.sourceKey (retainedEvidence registry request entry ++
        [appendedRecord registry request cell claim coverage entry]) =
      foreignRecords request.sourceKey entry.evidence := by
  rw [foreignRecords, liveRecords_applied, List.filter_append, ← foreignRecords,
    foreignRecords_superseded, List.filter_cons, liveOf_appended claim coverage]
  exact List.append_nil _

end Records

/-! ## The table of entries -/

section Entries

variable {registry : Registry} {request : PublicationRequest} {cell : Cell}

/-- A withdrawal writes back the entry of its capability, or nothing. -/
theorem withdraw_capabilities {capability : CapabilityId}
    (h : (withdrawIdentityClaim request capability cell).2 = .ok ()) :
    (withdrawIdentityClaim request capability cell).1 = cell ∨
      ∃ held entry : CapabilityEntry, cell.entity.findCapability capability = some held ∧
        entry.id = capability ∧
        entry.evidence =
          relabel (liveOf request.sourceKey) .superseded request.reason held.evidence ∧
        (withdrawIdentityClaim request capability cell).1.entity.capabilities =
          upsert CapabilityEntry.id entry cell.entity.capabilities := by
  revert h
  unfold withdrawIdentityClaim
  split
  · exact fun _ => .inl rfl
  · rename_i held hFound
    split
    · dsimp only
      split
      · exact fun hOk => by cases hOk
      · rename_i next hNext
        intro _
        refine .inr ⟨held, cell.resolved { held with
          evidence := relabel (liveOf request.sourceKey) .superseded request.reason held.evidence
          generation := next }, hFound, ?_, rfl, rfl⟩
        show held.id = capability
        exact lookup_key hFound
    · exact fun _ => .inl rfl

end Entries

/-! ## Full snapshots -/

/-- What a live record of the identity says, under the capability of its entry. -/
def EntityState.statements (key : SourceKey) (entity : EntityState) :
    List (CapabilityId × CapabilityState × CapabilityValue) :=
  entity.capabilities.flatMap fun entry =>
    (ownRecords key entry.evidence).map fun record => (entry.id, record.state, record.value)

/-- What a claim says. -/
def CapabilityClaim.statement (claim : CapabilityClaim) :
    CapabilityId × CapabilityState × CapabilityValue :=
  (claim.capability, claim.state, claim.value)

/-- The identity holds what it has claimed so far, and nothing else. -/
structure Holds (key : SourceKey) (stated : List CapabilityClaim) (entity : EntityState) :
    Prop where
  statements : (entity.statements key).Perm (stated.map CapabilityClaim.statement)
  silent : ∀ entry ∈ entity.capabilities, entry.id ∉ stated.map CapabilityClaim.capability →
    ownRecords key entry.evidence = []

theorem Holds.congr {key : SourceKey} {stated : List CapabilityClaim} {a b : EntityState}
    (h : Holds key stated a) (hCapabilities : b.capabilities = a.capabilities) :
    Holds key stated b := by
  constructor
  · rw [EntityState.statements, hCapabilities]
    exact h.statements
  · rw [hCapabilities]
    exact h.silent

section Snapshot

variable {registry : Registry} {request : PublicationRequest} {cell : Cell}

theorem supersedeIdentity_holds :
    Holds request.sourceKey [] (supersedeIdentity request.sourceKey request.reason cell).entity := by
  have hSilent : ∀ entry ∈
      (supersedeIdentity request.sourceKey request.reason cell).entity.capabilities,
      ownRecords request.sourceKey entry.evidence = [] := by
    intro entry hMem
    obtain ⟨indexes, held, -, rfl⟩ := mem_mapAccum hMem
    rw [relabelEntry_evidence, ownRecords_superseded]
  refine ⟨List.Perm.of_eq ?_, fun entry hMem _ => hSilent entry hMem⟩
  rw [EntityState.statements, List.flatMap_eq_nil_iff.2]
  · rfl
  · intro entry hMem
    rw [hSilent entry hMem]
    rfl

/-- One more claim, for a capability that was not claimed yet. -/
theorem Holds.claim {stated : List CapabilityClaim} {claim : CapabilityClaim}
    {coverage : Coverage} (h : Holds request.sourceKey stated cell.entity)
    (hNew : claim.capability ∉ stated.map CapabilityClaim.capability)
    (hOk : (applyClaim registry request claim coverage cell).2 = .ok ()) :
    Holds request.sourceKey (stated ++ [claim])
      (applyClaim registry request claim coverage cell).1.entity := by
  obtain ⟨next, -, hWritten⟩ := applyClaim_upserts hOk
  obtain ⟨hId, hFound⟩ := target_found cell claim
  generalize hEntry : cell.appliedEntry registry request claim coverage (cell.target claim) next =
    entry at hWritten
  have hEntryId : entry.id = claim.capability := by
    rw [← hEntry]
    exact hId
  have hOwn : (ownRecords request.sourceKey entry.evidence).map
      (fun record => (entry.id, record.state, record.value)) = [claim.statement] := by
    have hRecords : ownRecords request.sourceKey entry.evidence =
        [appendedRecord registry request cell claim coverage (cell.target claim)] := by
      rw [← hEntry]
      exact ownRecords_applied claim coverage
    rw [hRecords, hEntryId]
    rfl
  constructor
  · rw [EntityState.statements, hWritten, List.map_append]
    rcases hFound with hFound | ⟨hMissing, -⟩
    · have hHeld : ownRecords request.sourceKey (cell.target claim).evidence = [] :=
        h.silent _ (lookup_mem hFound) (hId ▸ hNew)
      have hAdded : ((ownRecords request.sourceKey entry.evidence).map fun record =>
          (entry.id, record.state, record.value)).Perm
            ((ownRecords request.sourceKey (cell.target claim).evidence).map (fun record =>
              ((cell.target claim).id, record.state, record.value)) ++ [claim.statement]) := by
        rw [hHeld, hOwn]
        exact List.Perm.refl _
      exact (flatMap_upsert_perm (hEntryId ▸ hFound) hAdded).trans
        (h.statements.append_right _)
    · rw [upsert_of_missing (hEntryId ▸ hMissing), List.flatMap_append, List.flatMap_singleton,
        hOwn]
      exact h.statements.append_right _
  · intro held hMem hSilent
    rw [List.map_append, List.mem_append, not_or] at hSilent
    rw [hWritten] at hMem
    rcases mem_upsert hMem with rfl | hMem
    · exact absurd (by rw [hEntryId]; exact List.mem_singleton_self _) hSilent.2
    · exact h.silent held hMem hSilent.1

/-- A loop of claims for distinct capabilities. -/
theorem Holds.claims {stated claims : List CapabilityClaim} {coverage : Coverage}
    (h : Holds request.sourceKey stated cell.entity)
    (hDistinct : ((stated ++ claims).map CapabilityClaim.capability).Nodup)
    (hOk : (runSteps registry request cell
      (claims.map (ApplyStep.applyClaim · coverage))).2 = .ok ()) :
    Holds request.sourceKey (stated ++ claims)
      (runSteps registry request cell (claims.map (ApplyStep.applyClaim · coverage))).1.entity := by
  induction claims generalizing stated cell with
  | nil =>
      rw [List.append_nil]
      exact h
  | cons claim claims ih =>
      have hNew : claim.capability ∉ stated.map CapabilityClaim.capability := by
        rw [List.map_append, List.map_cons] at hDistinct
        exact fun hMem => (List.disjoint_of_nodup_append hDistinct) hMem (List.mem_cons_self ..)
      rw [List.append_cons] at hDistinct ⊢
      have hFirst := @Holds.claim registry request cell stated claim coverage h hNew
      rw [List.map_cons, runSteps] at hOk ⊢
      rw [ApplyStep.run] at hOk ⊢
      generalize applyClaim registry request claim coverage cell = ran at *
      obtain ⟨next, outcome⟩ := ran
      cases outcome with
      | error e => cases hOk
      | ok u => exact ih (hFirst rfl) hDistinct hOk

theorem runSteps_append_ok {steps : List ApplyStep} (later : List ApplyStep)
    (hOk : (runSteps registry request cell steps).2 = .ok ()) :
    runSteps registry request cell (steps ++ later) =
      runSteps registry request (runSteps registry request cell steps).1 later := by
  induction steps generalizing cell with
  | nil => rfl
  | cons step steps ih =>
      rw [List.cons_append, runSteps]
      rw [runSteps] at hOk ⊢
      generalize step.run registry request cell = ran at *
      obtain ⟨next, outcome⟩ := ran
      cases outcome with
      | error e => cases hOk
      | ok u => exact ih hOk

theorem runSteps_append {steps later : List ApplyStep}
    (hOk : (runSteps registry request cell (steps ++ later)).2 = .ok ()) :
    (runSteps registry request cell steps).2 = .ok () ∧
      runSteps registry request cell (steps ++ later) =
        runSteps registry request (runSteps registry request cell steps).1 later := by
  have hFirst : (runSteps registry request cell steps).2 = .ok () := by
    induction steps generalizing cell with
    | nil => rfl
    | cons step steps ih =>
        rw [List.cons_append, runSteps] at hOk
        rw [runSteps]
        generalize step.run registry request cell = ran at *
        obtain ⟨next, outcome⟩ := ran
        cases outcome with
        | error e => cases hOk
        | ok u => exact ih hOk
  exact ⟨hFirst, runSteps_append_ok later hFirst⟩

end Snapshot

/-- The absences that the snapshot of an exclusive enumeration implies. -/
def impliedAbsences (registry : Registry) (request : PublicationRequest) :
    List CapabilityClaim :=
  match validateRequest registry request with
  | .ok (_, grant) =>
      if grant.exclusive && request.coverage == .fullEnumeration then
        absenceClaims registry.schema grant request
      else []
  | .error _ => []

/-- The steps of a full snapshot. -/
theorem fullSnapshotSteps_eq {registry : Registry} {request : PublicationRequest}
    {runtime : PublisherRuntime} {grant : AuthorityGrant}
    (hValid : validateRequest registry request = .ok (runtime, grant)) :
    fullSnapshotSteps registry.schema grant request =
      (if grant.exclusive then [.supersedeOtherIdentities] else []) ++ ([.supersedeIdentity] ++
        (request.claims.map (.applyClaim · request.coverage) ++
          (impliedAbsences registry request).map (.applyClaim · .fullEnumeration))) := by
  unfold fullSnapshotSteps impliedAbsences
  rw [hValid]
  dsimp only
  rw [List.append_assoc, List.append_assoc]
  congr 3
  split <;> rfl

theorem absenceClaims_distinct {schema : CapabilitySchema} (h : schema.Distinct)
    (grant : AuthorityGrant) (request : PublicationRequest) :
    ((absenceClaims schema grant request).map CapabilityClaim.capability).Nodup := by
  have hIds : (schema.descriptors.map CapabilityDescriptor.id).Nodup :=
    ((sortBy_perm _ _).map _).nodup_iff.2 h
  unfold absenceClaims
  dsimp only
  rw [List.map_map]
  exact (List.filter_sublist.map CapabilityDescriptor.id).nodup hIds

/-- No absence is implied for a capability that the snapshot claims. -/
theorem absenceClaims_unmentioned {schema : CapabilitySchema} {grant : AuthorityGrant}
    {request : PublicationRequest} {absence : CapabilityClaim}
    (h : absence ∈ absenceClaims schema grant request) :
    absence.capability ∉ request.claims.map CapabilityClaim.capability := by
  intro hMentioned
  obtain ⟨claim, hClaim, hSame⟩ := List.mem_map.1 hMentioned
  obtain ⟨descriptor, hMem, rfl⟩ := List.mem_map.1 h
  have hAbsent := (List.mem_filter.1 hMem).2
  simp only [Bool.and_eq_true, Bool.not_eq_true', List.any_eq_false, beq_iff_eq] at hAbsent
  exact hAbsent.1.2 claim hClaim (congrArg CapabilityId.toText hSame)

theorem stated_distinct {registry : Registry} (hSchema : registry.schema.Distinct)
    {request : PublicationRequest} {runtime : PublisherRuntime} {grant : AuthorityGrant}
    (hValid : validateRequest registry request = .ok (runtime, grant)) :
    ((request.claims ++ impliedAbsences registry request).map
      CapabilityClaim.capability).Nodup := by
  have hClaims := checkClaims_distinct (validateRequest_ok hValid).claims
  unfold impliedAbsences
  rw [hValid, List.map_append]
  dsimp only
  split
  · refine List.nodup_append.2 ⟨hClaims, absenceClaims_distinct hSchema grant request, ?_⟩
    rintro capability hClaimed _ hAbsent rfl
    obtain ⟨absence, hMem, rfl⟩ := List.mem_map.1 hAbsent
    exact absenceClaims_unmentioned hMem hClaimed
  · rw [List.map_nil, List.append_nil]
    exact hClaims

/-- The entity that a commit leaves holds the entries of stage 10. -/
theorem Committed.capabilities_after {registry after : Registry} {request : PublicationRequest}
    {result : PublicationResult} (c : Committed registry request after result) :
    ∃ entity, after.findEntity request.entity = some entity ∧
      entity.capabilities = (runSteps c.bound request (c.bound.cell c.entity)
        (publicationSteps registry request)).1.entity.capabilities := by
  obtain ⟨registryGeneration, next, hAfter, hNext, -⟩ := c.entity_after
  obtain ⟨-, -, hPublished⟩ := applyRequest_entity c.applies
  refine ⟨_, hAfter, ?_⟩
  rw [committedEntity_capabilities, hNext, c.publicationSteps_eq, ← hPublished]

/-- A full snapshot replaces what its identity holds on the entity: its live records are one
for each claim and one for each implied absence. -/
theorem full_snapshot_replaces (options : Options) (operations : List Operation)
    (request : PublicationRequest) (hMode : request.mode = .fullSnapshot)
    (hCommitted : Attempt.committed ⟨afterRun options operations, request⟩ = true) :
    let stated := request.claims ++ impliedAbsences (afterRun options operations) request
    (stated.map CapabilityClaim.capability).Nodup ∧
    ∃ entity,
      (publish (afterRun options operations) request).1.findEntity request.entity = some entity ∧
      (entity.statements request.sourceKey).Perm (stated.map CapabilityClaim.statement) := by
  obtain ⟨result, ⟨c⟩⟩ := Attempt.committed_stages hCommitted
  dsimp only at c
  have hDistinct := stated_distinct (run_distinct options operations) c.valid
  refine ⟨hDistinct, ?_⟩
  obtain ⟨entity, hAfter, hCapabilities⟩ := c.capabilities_after
  refine ⟨entity, hAfter, ?_⟩
  have hRun := c.runs
  have hSteps : publicationSteps (afterRun options operations) request =
      fullSnapshotSteps (afterRun options operations).schema c.grant request := by
    rw [publicationSteps, c.valid]
    dsimp only
    rw [applySteps, hMode]
  rw [hSteps, fullSnapshotSteps_eq c.valid] at hRun hCapabilities
  -- the other identities, then the own one, then the claims, then the absences
  obtain ⟨-, hOthers⟩ := runSteps_append hRun
  rw [hOthers] at hRun hCapabilities
  obtain ⟨-, hOwn⟩ := runSteps_append hRun
  rw [hOwn] at hRun hCapabilities
  obtain ⟨hClaimsOk, hClaims⟩ := runSteps_append hRun
  rw [hClaims] at hRun hCapabilities
  have hClaimed := supersedeIdentity_holds.claims (by
    rw [List.nil_append]
    exact checkClaims_distinct (validateRequest_ok c.valid).claims) hClaimsOk
  exact ((hClaimed.claims hDistinct hRun).congr hCapabilities).statements

namespace Sample

/-- A snapshot that another one of the same identity follows. -/
def snapshots : List Operation := setup ++ [.publish (snapshot "attempt-1" 0)]

end Sample

theorem second_snapshot_replaces :
    ((Sample.snapshot "attempt-2" 1).claims ++
        impliedAbsences (afterRun {} Sample.snapshots) (Sample.snapshot "attempt-2" 1) |>.map
      CapabilityClaim.capability).Nodup ∧
    ∃ entity, (publish (afterRun {} Sample.snapshots)
        (Sample.snapshot "attempt-2" 1)).1.findEntity Sample.entity = some entity ∧
      (entity.statements (Sample.snapshot "attempt-2" 1).sourceKey).Perm
        ((Sample.snapshot "attempt-2" 1).claims ++
            impliedAbsences (afterRun {} Sample.snapshots) (Sample.snapshot "attempt-2" 1) |>.map
          CapabilityClaim.statement) :=
  full_snapshot_replaces {} Sample.snapshots (Sample.snapshot "attempt-2" 1) rfl
    (by decide +kernel)

/-! ## Partial updates -/

/-- The capabilities that a request names. -/
def PublicationRequest.named (request : PublicationRequest) : List CapabilityId :=
  request.claims.map CapabilityClaim.capability ++ request.edits.map IncrementalEdit.capability

/-- The live records of the other identities, under the capabilities of their entries. -/
def foreignIn (key : SourceKey) (capabilities : List CapabilityEntry) :
    List (CapabilityId × EvidenceRecord) :=
  capabilities.flatMap fun entry => (foreignRecords key entry.evidence).map (entry.id, ·)

/-- The entries under the capabilities that are not in the list. -/
def unnamedIn (names : List CapabilityId) (capabilities : List CapabilityEntry) :
    List CapabilityEntry :=
  capabilities.filter fun entry => entry.id ∉ names

/-- Two tables that differ in the own records of the named entries at most. -/
structure Confined (names : List CapabilityId) (key : SourceKey)
    (before after : List CapabilityEntry) : Prop where
  unnamed : unnamedIn names after = unnamedIn names before
  foreign : foreignIn key after = foreignIn key before

section Partial

variable {names : List CapabilityId} {key : SourceKey} {a b c : List CapabilityEntry}
  {registry : Registry} {request : PublicationRequest} {cell : Cell}

theorem Confined.refl : Confined names key a a := ⟨rfl, rfl⟩

theorem Confined.trans (hFirst : Confined names key a b) (hSecond : Confined names key b c) :
    Confined names key a c :=
  ⟨hSecond.unnamed.trans hFirst.unnamed, hSecond.foreign.trans hFirst.foreign⟩

/-- A named entry is written back with its foreign records as they were. -/
theorem Confined.upsert {held entry : CapabilityEntry} (hNamed : entry.id ∈ names)
    (hHeld : lookup CapabilityEntry.id entry.id a = some held ∨
      (lookup CapabilityEntry.id entry.id a = none ∧ held = { id := entry.id }))
    (hForeign : foreignRecords key entry.evidence = foreignRecords key held.evidence) :
    Confined names key a (upsert CapabilityEntry.id entry a) := by
  constructor
  · have hOut : decide (entry.id ∉ names) = false := decide_eq_false fun hNot => hNot hNamed
    exact @filter_upsert _ _ _ CapabilityEntry.id entry a (fun id => decide (id ∉ names)) hOut
  · rcases hHeld with hFound | ⟨hMissing, rfl⟩
    · have hId : held.id = entry.id := lookup_key hFound
      rw [foreignIn, foreignIn, List.flatMap_def, List.flatMap_def, map_upsert hFound]
      rw [hForeign, hId]
    · rw [upsert_of_missing hMissing, foreignIn, List.flatMap_append, List.flatMap_singleton,
        hForeign]
      exact List.append_nil _

/-- The step acts on the named entries only. -/
def ApplyStep.within (names : List CapabilityId) : ApplyStep → Prop
  | applyClaim claim _ => claim.capability ∈ names
  | withdrawClaim capability => capability ∈ names
  | countSuperseded => True
  | supersedeIdentity | supersedeOtherIdentities => False

theorem step_confined {step : ApplyStep} (hWithin : step.within names)
    (hOk : (step.run registry request cell).2 = .ok ()) :
    Confined names request.sourceKey cell.entity.capabilities
      (step.run registry request cell).1.entity.capabilities := by
  cases step with
  | supersedeIdentity => exact hWithin.elim
  | supersedeOtherIdentities => exact hWithin.elim
  | countSuperseded => exact Confined.refl
  | applyClaim claim coverage =>
      obtain ⟨next, -, hWritten⟩ := applyClaim_upserts hOk
      obtain ⟨hId, hHeld⟩ := target_found cell claim
      have hNamed : (cell.target claim).id ∈ names := hId.symm ▸ hWithin
      rw [EntityState.findCapability, ← hId] at hHeld
      rw [ApplyStep.run, hWritten]
      exact Confined.upsert hNamed hHeld (foreignRecords_applied claim coverage)
  | withdrawClaim capability =>
      rw [ApplyStep.run]
      rcases withdraw_capabilities hOk with hSame | ⟨held, entry, hFound, hId, hEvidence, hWritten⟩
      · rw [hSame]
        exact Confined.refl
      · subst hId
        rw [hWritten]
        exact Confined.upsert hWithin (.inl hFound)
          (hEvidence ▸ foreignRecords_superseded request.reason)

theorem runSteps_confined {steps : List ApplyStep} (hWithin : ∀ step ∈ steps, step.within names)
    (hOk : (runSteps registry request cell steps).2 = .ok ()) :
    Confined names request.sourceKey cell.entity.capabilities
      (runSteps registry request cell steps).1.entity.capabilities := by
  induction steps generalizing cell with
  | nil => exact Confined.refl
  | cons step steps ih =>
      have hFirst := @step_confined names registry request cell step
        (hWithin step (List.mem_cons_self ..))
      have hRest := fun next => @ih next fun later hMem =>
        hWithin later (List.mem_cons_of_mem _ hMem)
      rw [runSteps] at hOk ⊢
      generalize step.run registry request cell = ran at *
      obtain ⟨next, outcome⟩ := ran
      cases outcome with
      | error e => cases hOk
      | ok u => exact (hFirst rfl).trans (hRest next hOk)

theorem publicationSteps_within (hMode : request.mode ≠ .fullSnapshot)
    (hNone : ∀ edit ∈ request.edits, edit.operation ≠ .supersedeSourceEvidence) :
    ∀ step ∈ publicationSteps registry request, step.within request.named := by
  intro step hMem
  unfold publicationSteps at hMem
  split at hMem
  · cases applySteps_from step hMem with
    | others hFull => exact absurd hFull hMode
    | identity hFull => exact absurd hFull hMode
    | absence hFull => exact absurd hFull hMode
    | claim _ hClaim => exact List.mem_append_left _ (List.mem_map_of_mem hClaim)
    | withdrawal _ hEdit => exact List.mem_append_right _ (List.mem_map_of_mem hEdit)
    | supersession _ hEdit hOwn => exact absurd hOwn (hNone _ hEdit)
    | @edit edit _ hEdit =>
        show edit.effectiveClaim.capability ∈ request.named
        rw [effectiveClaim_capability]
        exact List.mem_append_right _ (List.mem_map_of_mem hEdit)
  · cases hMem

end Partial

/-- The entries that a registry holds for an entity. -/
def Registry.entriesOf (registry : Registry) (id : EntityId) : List CapabilityEntry :=
  ((registry.findEntity id).map EntityState.capabilities).getD []

/-- A commit at the generation of the entity starts from the entries that are held. -/
theorem Committed.capabilities_before {registry after : Registry} {request : PublicationRequest}
    {result : PublicationResult} (c : Committed registry request after result)
    (hGeneration : ∀ held, registry.findEntity request.entity = some held →
      held.currentGeneration = request.entityGeneration) :
    c.entity.capabilities = registry.entriesOf request.entity := by
  obtain ⟨-, -, -, ⟨-, hFound⟩ | ⟨hFresh, -, hBelow⟩⟩ := bindEntity_ok c.binds
  · rw [Registry.entriesOf, hFound]
    rfl
  · cases hHeld : registry.findEntity request.entity with
    | none =>
        rw [Registry.entriesOf, hHeld]
        exact hFresh.capabilities
    | some held =>
        have hLess := hBelow held hHeld
        rw [hGeneration held hHeld] at hLess
        exact absurd hLess (UInt64.lt_irrefl _)

/-- A partial observation, or an incremental publication that supersedes no source evidence,
changes the named entries at most, and there the records of its own identity. -/
theorem partial_update_confined (options : Options) (operations : List Operation)
    (request : PublicationRequest) (hMode : request.mode ≠ .fullSnapshot)
    (hEdits : ∀ edit ∈ request.edits, edit.operation ≠ .supersedeSourceEvidence)
    (hGeneration : ∀ held,
      (afterRun options operations).findEntity request.entity = some held →
      held.currentGeneration = request.entityGeneration)
    (hCommitted : Attempt.committed ⟨afterRun options operations, request⟩ = true) :
    let before := afterRun options operations
    let after := (publish before request).1
    unnamedIn request.named (after.entriesOf request.entity) =
        unnamedIn request.named (before.entriesOf request.entity) ∧
      foreignIn request.sourceKey (after.entriesOf request.entity) =
        foreignIn request.sourceKey (before.entriesOf request.entity) ∧
      ∀ id, id ≠ request.entity → after.findEntity id = before.findEntity id := by
  obtain ⟨result, ⟨c⟩⟩ := Attempt.committed_stages hCommitted
  dsimp only at c
  have hRun := runSteps_confined (publicationSteps_within hMode hEdits) c.runs
  have hBefore := c.capabilities_before hGeneration
  obtain ⟨entity, hAfter, hCapabilities⟩ := c.capabilities_after
  have hEntries : Registry.entriesOf (publish (afterRun options operations) request).1
      request.entity = entity.capabilities := by
    show ((Registry.findEntity (Attempt.after ⟨afterRun options operations, request⟩)
      request.entity).map EntityState.capabilities).getD [] = _
    rw [hAfter]
    rfl
  rw [← hCapabilities] at hRun
  have hConfined : Confined request.named request.sourceKey
      ((afterRun options operations).entriesOf request.entity) entity.capabilities :=
    hBefore ▸ hRun
  dsimp only
  rw [hEntries]
  exact ⟨hConfined.unnamed, hConfined.foreign, fun id hId => publish_other _ (Ne.symm hId)⟩

namespace Sample

/-- The publisher has a second boot, which has not spoken yet. -/
def rebooted : List Operation := snapshots ++ [.registerPublisher publisher scope bootTwo]

def update : PublicationRequest :=
  publication bootTwo "attempt-2" 1 1 (claim .unsupported .processBound)

end Sample

/-- The update of the second boot leaves the record of the first one. -/
theorem second_boot_confined :
    unnamedIn Sample.update.named
        ((publish (afterRun {} Sample.rebooted) Sample.update).1.entriesOf Sample.entity) =
      unnamedIn Sample.update.named
        ((afterRun {} Sample.rebooted).entriesOf Sample.entity) ∧
    foreignIn Sample.update.sourceKey
        ((publish (afterRun {} Sample.rebooted) Sample.update).1.entriesOf Sample.entity) =
      foreignIn Sample.update.sourceKey
        ((afterRun {} Sample.rebooted).entriesOf Sample.entity) ∧
    ∀ id, id ≠ Sample.entity →
      (publish (afterRun {} Sample.rebooted) Sample.update).1.findEntity id =
        (afterRun {} Sample.rebooted).findEntity id :=
  partial_update_confined {} Sample.rebooted Sample.update (by decide) (by decide)
    (by decide +kernel) (by decide +kernel)

end FabricCapability.Ports

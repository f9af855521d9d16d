import FabricCapability.Ports.EvidenceRoom
import FabricCapability.Ports.Isolation
import FabricCapability.Ports.LoadBounds

/-!
# Evidence that dead workers leave behind

A claim is refused when its capability holds as many live records of other identities as it
may hold records.  Records of fenced boots and records that wait for revalidation count as
live, trimming spares them, and their identities never publish again: a capability that
enough workers have left behind refuses every claim.

## Main results

* `runSteps_refuses`: the loop of stage 10 refuses a claim on a crowded capability.
* `refused_iff_crowded`: a publication that passes every other check.
* `never_starved_iff`: when a refusal is due to identities that are alive.
-/

namespace FabricCapability.Ports

open FabricCapability.Verified.KeyedList

/-! ## Rivals -/

/-- The live records that an identity competes with: those it did not make itself. -/
def rivals (request : PublicationRequest) (evidence : List EvidenceRecord) :
    List EvidenceRecord :=
  (liveRecords evidence).filter (!liveOf request.sourceKey ·)

/-- Everything that is not retired counts: current, fenced and waiting for revalidation. -/
theorem crowded_iff (registry : Registry) (request : PublicationRequest)
    (entry : CapabilityEntry) :
    entry.Crowded registry request ↔
      registry.options.maxEvidencePerCapability ≤ (rivals request entry.evidence).length := by
  unfold CapabilityEntry.Crowded retainedEvidence rivals
  rw [liveEvidenceCount_eq, liveRecords_trim, liveRecords_relabel]

section Rivals

variable {registry : Registry} {request : PublicationRequest} {cell : Cell}

theorem rivals_filter (evidence : List EvidenceRecord) :
    ((rivals request evidence).filter (!liveOf request.sourceKey ·)) =
      rivals request evidence := by
  unfold rivals
  rw [List.filter_filter]
  simp

/-- Superseding its own records leaves the rivals of an identity alone. -/
theorem rivals_relabel (reason : ReasonToken) (evidence : List EvidenceRecord) :
    rivals request (relabel (liveOf request.sourceKey) .superseded reason evidence) =
      rivals request evidence := by
  show (liveRecords _).filter _ = _
  rw [liveRecords_relabel]
  exact rivals_filter evidence

theorem appendedRecord_own (claim : CapabilityClaim) (coverage : Coverage)
    (entry : CapabilityEntry) :
    liveOf request.sourceKey (appendedRecord registry request cell claim coverage entry) =
      true := by
  unfold liveOf appendedRecord newRecord PublicationRequest.sourceKey
  rw [beq_self_eq_true, beq_self_eq_true]
  rfl

theorem rivals_appended (claim : CapabilityClaim) (coverage : Coverage)
    (entry : CapabilityEntry) :
    rivals request (retainedEvidence registry request entry ++
        [appendedRecord registry request cell claim coverage entry]) =
      rivals request entry.evidence := by
  have hOwn := @appendedRecord_own registry request cell claim coverage entry
  have hKept : liveRecords (retainedEvidence registry request entry) =
      rivals request entry.evidence := by
    unfold retainedEvidence rivals
    rw [liveRecords_trim, liveRecords_relabel]
  have hSplit : rivals request (retainedEvidence registry request entry ++
      [appendedRecord registry request cell claim coverage entry]) =
      (liveRecords (retainedEvidence registry request entry)).filter
          (!liveOf request.sourceKey ·) ++
        (liveRecords [appendedRecord registry request cell claim coverage entry]).filter
          (!liveOf request.sourceKey ·) := by
    unfold rivals liveRecords
    rw [List.filter_append, List.filter_append]
  rw [hSplit, hKept, rivals_filter]
  rw [List.filter_eq_nil_iff.2 ?_, List.append_nil]
  intro record hMem
  rw [List.mem_singleton.1 (List.mem_filter.1 hMem).1, hOwn]
  exact Bool.false_ne_true

/-- Only an exclusive snapshot takes rivals away. -/
theorem step_rivals {step : ApplyStep} (hStep : step ≠ .supersedeOtherIdentities)
    (hOk : (step.run registry request cell).2 = .ok ()) (capability : CapabilityId) :
    rivals request ((step.run registry request cell).1.entity.entryOf capability).evidence =
      rivals request (cell.entity.entryOf capability).evidence := by
  have hEntry := step_entryOf hOk capability
  generalize step.acts request capability (cell.entity.entryOf capability).evidence = acts
    at hEntry
  generalize (step.run registry request cell).1.entity.entryOf capability = later at hEntry ⊢
  generalize cell.entity.entryOf capability = entry at hEntry ⊢
  cases acts with
  | false => rw [show later = entry from hEntry]
  | true =>
      have hChange : EntryChange registry request cell step true entry later := hEntry
      cases hChange with
      | superseded hSelects _ =>
          cases step with
          | supersedeOtherIdentities => exact absurd rfl hStep
          | supersedeIdentity =>
              cases hSelects
              exact rivals_relabel request.reason entry.evidence
          | _ => cases hSelects
      | withdrawn _ _ => exact rivals_relabel request.reason entry.evidence
      | applied _ => exact rivals_appended _ _ _

/-! ## The evidence check -/

/-- What `ApplyClaim` answers, as far as the evidence bound goes. -/
theorem applyClaim_answers (claim : CapabilityClaim) (coverage : Coverage) :
    ((applyClaim registry request claim coverage cell).2 = .ok () →
      ¬(cell.entity.entryOf claim.capability).Crowded registry request) ∧
    ∀ e, (applyClaim registry request claim coverage cell).2 = .error e →
      e.code = .evidenceLimitExceeded →
        (cell.entity.entryOf claim.capability).Crowded registry request := by
  have hEntry : ∀ entry : CapabilityEntry,
      ((applyToEntry registry request claim coverage cell entry).2 = .ok () →
        ¬entry.Crowded registry request) ∧
      ∀ e, (applyToEntry registry request claim coverage cell entry).2 = .error e →
        e.code = .evidenceLimitExceeded → entry.Crowded registry request := by
    intro entry
    unfold applyToEntry
    dsimp only
    split
    · rename_i hCrowded
      exact ⟨nofun, fun _ _ _ => hCrowded⟩
    · rename_i hRoom
      split
      · refine ⟨nofun, fun e hError hCode => ?_⟩
        cases hError
        cases hCode
      · exact ⟨fun _ => hRoom, nofun⟩
  unfold applyClaim EntityState.entryOf
  split
  · rename_i entry hFound
    rw [hFound]
    exact hEntry entry
  · rename_i hMissing
    rw [hMissing]
    split
    · refine ⟨nofun, fun e hError hCode => ?_⟩
      cases hError
      cases hCode
    · exact hEntry _

/-- The capability that a step claims. -/
def ApplyStep.claimed : ApplyStep → Option CapabilityId
  | applyClaim claim _ => some claim.capability
  | _ => none

/-- What a step answers, as far as the evidence bound goes. -/
theorem step_answers (step : ApplyStep) :
    ((step.run registry request cell).2 = .ok () → ∀ capability ∈ step.claimed,
      ¬(cell.entity.entryOf capability).Crowded registry request) ∧
    ∀ e, (step.run registry request cell).2 = .error e → e.code = .evidenceLimitExceeded →
      ∃ capability ∈ step.claimed,
        (cell.entity.entryOf capability).Crowded registry request := by
  cases step with
  | applyClaim claim coverage =>
      have hClaim := @applyClaim_answers registry request cell claim coverage
      refine ⟨fun hOk capability hClaimed => ?_, fun e hError hCode => ?_⟩
      · cases hClaimed
        exact hClaim.1 hOk
      · exact ⟨claim.capability, rfl, hClaim.2 e hError hCode⟩
  | withdrawClaim capability =>
      refine ⟨fun _ capability hMem => by (cases hMem), fun e hError hCode => ?_⟩
      rw [ApplyStep.run] at hError
      unfold withdrawIdentityClaim at hError
      split at hError
      · cases hError
      · split at hError
        · dsimp only at hError
          split at hError
          · cases hError
            cases hCode
          · cases hError
        · cases hError
  | _ => exact ⟨fun _ capability hMem => by (cases hMem), fun e hError => by (cases hError)⟩

/-- The loop of stage 10 refuses a claim for want of room exactly on a capability that was
crowded before the loop began. -/
theorem runSteps_refuses {steps : List ApplyStep}
    (hSteps : ApplyStep.supersedeOtherIdentities ∉ steps) :
    ((runSteps registry request cell steps).2 = .ok () →
      ∀ capability ∈ steps.filterMap ApplyStep.claimed,
        ¬(cell.entity.entryOf capability).Crowded registry request) ∧
    ∀ e, (runSteps registry request cell steps).2 = .error e →
      e.code = .evidenceLimitExceeded →
        ∃ capability ∈ steps.filterMap ApplyStep.claimed,
          (cell.entity.entryOf capability).Crowded registry request := by
  induction steps generalizing cell with
  | nil => exact ⟨fun _ capability hMem => by (cases hMem), fun e hError => by (cases hError)⟩
  | cons step steps ih =>
      have hStep : step ≠ .supersedeOtherIdentities := fun hEq =>
        hSteps (hEq ▸ List.mem_cons_self)
      have hRest : ApplyStep.supersedeOtherIdentities ∉ steps := fun hMem =>
        hSteps (List.mem_cons_of_mem _ hMem)
      obtain ⟨hHereOk, hHereError⟩ := @step_answers registry request cell step
      have hClaimed : ∀ capability, capability ∈ (step :: steps).filterMap ApplyStep.claimed ↔
          capability ∈ step.claimed ∨ capability ∈ steps.filterMap ApplyStep.claimed := by
        intro capability
        rw [List.mem_filterMap, List.mem_filterMap]
        simp
      have hSame : (step.run registry request cell).2 = .ok () → ∀ capability,
          ((step.run registry request cell).1.entity.entryOf capability).Crowded registry
            request ↔ (cell.entity.entryOf capability).Crowded registry request := by
        intro hOk capability
        rw [crowded_iff, crowded_iff, step_rivals hStep hOk]
      rw [runSteps]
      split
      · rename_i next e hRun
        rw [hRun] at hHereError
        refine ⟨fun hOk => by (cases hOk), fun e' hError hCode => ?_⟩
        cases hError
        obtain ⟨capability, hHere, hCrowded⟩ := hHereError e rfl hCode
        exact ⟨capability, (hClaimed capability).2 (.inl hHere), hCrowded⟩
      · rename_i next hRun
        rw [hRun] at hHereOk hSame
        obtain ⟨hOk, hError⟩ := @ih next hRest
        refine ⟨fun hDone capability hMem => ?_, fun e hFailed hCode => ?_⟩
        · rcases (hClaimed capability).1 hMem with hHere | hLater
          · exact hHereOk rfl capability hHere
          · rw [← hSame rfl capability]
            exact hOk hDone capability hLater
        · obtain ⟨capability, hLater, hCrowded⟩ := hError e hFailed hCode
          exact ⟨capability, (hClaimed capability).2 (.inr hLater),
            (hSame rfl capability).1 hCrowded⟩

end Rivals

/-! ## Publications -/

namespace Attempt

/-- The evidence for the capability that the publication meets: none when it opens a
generation of the entity. -/
def standing (attempt : Attempt) (capability : CapabilityId) : List EvidenceRecord :=
  match attempt.before.findEntity attempt.request.entity with
  | some entity =>
      if entity.currentGeneration = attempt.request.entityGeneration then
        (entity.entryOf capability).evidence
      else []
  | none => []

/-- The publication supersedes the live records of the other identities first. -/
def evicts (attempt : Attempt) : Bool :=
  decide (ApplyStep.supersedeOtherIdentities ∈
    publicationSteps attempt.before attempt.request)

/-- The capabilities that the publication claims, implied absences included. -/
def claimed (attempt : Attempt) : List CapabilityId :=
  (publicationSteps attempt.before attempt.request).filterMap ApplyStep.claimed

/-- The live records for the capability that the publication does not supersede. -/
def rivals (attempt : Attempt) (capability : CapabilityId) : List EvidenceRecord :=
  (Ports.rivals attempt.request (attempt.standing capability)).filter fun record =>
    !(attempt.evicts && liveOfOthers attempt.request.publisherKey record)

/-- As many of them as the capability may hold records. -/
def Crowded (attempt : Attempt) (capability : CapabilityId) : Prop :=
  attempt.before.options.maxEvidencePerCapability ≤ (attempt.rivals capability).length

/-- The identities with current evidence for the capability whose boots are not fenced. -/
def holders (attempt : Attempt) (capability : CapabilityId) : List SourceKey :=
  (((attempt.standing capability).filter fun record =>
    isCurrent record.currentness && decide (record.workerBoot ∉ attempt.before.fencedBoots)).map
      fun record => { source := record.source, boot := record.workerBoot }).dedup

/-- The publication is refused with `EvidenceLimitExceeded`. -/
def RefusedForEvidence (attempt : Attempt) : Prop :=
  ∃ result, attempt.result = .ok result ∧ result.code = .evidenceLimitExceeded

/-- Stages 1 to 9 pass, and stage 10 and the commit fail in nothing but the evidence bound. -/
def PassesOtherChecks (attempt : Attempt) : Prop :=
  (admitted attempt.before attempt.request).isSome = true ∧
    (attempt.committed = true ∨ attempt.RefusedForEvidence)

/-- A refusal for want of room is due to identities that are alive: one of the crowded
capabilities has current evidence of as many as it may hold records. -/
def NeverStarved (attempt : Attempt) : Prop :=
  attempt.RefusedForEvidence → ∃ capability ∈ attempt.claimed, attempt.Crowded capability ∧
    attempt.before.options.maxEvidencePerCapability ≤ (attempt.holders capability).length

end Attempt

section Admitted

variable {attempt : Attempt} {grant : AuthorityGrant} {bound : Registry}
  {entity : EntityState}

theorem admitted_steps (h : admitted attempt.before attempt.request =
    some (grant, bound, entity)) :
    applySteps bound.schema grant attempt.request =
      publicationSteps attempt.before attempt.request := by
  obtain ⟨runtime, hValid, hBind, -⟩ := admitted_some h
  have hControl := bindEntity_control attempt.before attempt.request
  rw [hBind] at hControl
  rw [publicationSteps, hValid, hControl.schema]

/-- Stage 10 starts from the standing evidence. -/
theorem admitted_standing (h : admitted attempt.before attempt.request =
    some (grant, bound, entity)) (capability : CapabilityId) :
    (entity.entryOf capability).evidence = attempt.standing capability := by
  obtain ⟨runtime, -, hBind, -⟩ := admitted_some h
  obtain ⟨-, hGeneration, -, ⟨-, hFound⟩ | ⟨hFresh, -, hBelow⟩⟩ := bindEntity_ok hBind
  · rw [Attempt.standing, hFound]
    dsimp only
    rw [if_pos hGeneration]
  · rw [EntityState.entryOf_empty hFresh.capabilities]
    unfold Attempt.standing
    split
    · rename_i held hHeld
      rw [if_neg (UInt64.ne_of_lt (hBelow held hHeld))]
    · rfl

/-- The first step of an exclusive snapshot, the others spared. -/
theorem applySteps_evicts (schema : CapabilitySchema) (grant : AuthorityGrant)
    (request : PublicationRequest) :
    ApplyStep.supersedeOtherIdentities ∉ applySteps schema grant request ∨
      ∃ rest, applySteps schema grant request = .supersedeOtherIdentities :: rest ∧
        ApplyStep.supersedeOtherIdentities ∉ rest := by
  cases hExclusive : grant.exclusive with
  | false => exact .inl (applySteps_shared schema request hExclusive)
  | true =>
      by_cases hMode : request.mode = .fullSnapshot
      · have hSteps : applySteps schema grant request =
            .supersedeOtherIdentities :: (applySteps schema grant request).tail := by
          unfold applySteps fullSnapshotSteps
          rw [hMode, hExclusive]
          rfl
        refine .inr ⟨_, hSteps, ?_⟩
        unfold applySteps fullSnapshotSteps
        rw [hMode, hExclusive]
        simp
      · left
        intro hMem
        generalize hStep : ApplyStep.supersedeOtherIdentities = step at hMem
        cases applySteps_from step hMem with
        | others hFull _ => exact hMode hFull
        | supersession _ _ _ hCounts => rcases hCounts with rfl | rfl <;> cases hStep
        | _ => cases hStep

/-- An exclusive snapshot leaves an identity the rivals that it does not supersede. -/
theorem evicted_rivals {registry : Registry} {request : PublicationRequest} {cell : Cell}
    (capability : CapabilityId) :
    rivals request ((supersedeOtherIdentities request.publisherKey request.reason
        cell).entity.entryOf capability).evidence =
      (rivals request (cell.entity.entryOf capability).evidence).filter
        (!liveOfOthers request.publisherKey ·) := by
  have hEntry := @step_entryOf registry request cell .supersedeOtherIdentities rfl capability
  rw [ApplyStep.run, ApplyStep.acts] at hEntry
  generalize (supersedeOtherIdentities request.publisherKey request.reason
    cell).entity.entryOf capability = later at hEntry ⊢
  generalize cell.entity.entryOf capability = entry at hEntry ⊢
  cases hTouches : entry.evidence.any (liveOfOthers request.publisherKey) with
  | false =>
      rw [hTouches] at hEntry
      rw [show later = entry from hEntry, List.filter_eq_self.2]
      intro record hMem
      have hHeld : record ∈ entry.evidence :=
        (List.mem_filter.1 (List.mem_filter.1 hMem).1).1
      rw [Bool.not_eq_true']
      exact Bool.eq_false_iff.2 (List.any_eq_false.1 hTouches record hHeld)
  | true =>
      rw [hTouches] at hEntry
      have hChange : EntryChange registry request cell .supersedeOtherIdentities true entry
        later := hEntry
      cases hChange with
      | superseded hSelects _ =>
          cases hSelects
          show (liveRecords (relabel (liveOfOthers request.publisherKey) .superseded
            request.reason entry.evidence)).filter (!liveOf request.sourceKey ·) = _
          rw [liveRecords_relabel]
          unfold rivals
          rw [List.filter_filter, List.filter_filter]
          exact List.filter_congr fun record _ => Bool.and_comm _ _

/-- Stage 10 answers for want of room by the capabilities that are crowded before it. -/
theorem admitted_refuses (h : admitted attempt.before attempt.request =
    some (grant, bound, entity)) :
    ((runSteps bound attempt.request (bound.cell entity)
        (applySteps bound.schema grant attempt.request)).2 = .ok () →
      ∀ capability ∈ attempt.claimed, ¬attempt.Crowded capability) ∧
    ∀ e, (runSteps bound attempt.request (bound.cell entity)
        (applySteps bound.schema grant attempt.request)).2 = .error e →
      e.code = .evidenceLimitExceeded →
        ∃ capability ∈ attempt.claimed, attempt.Crowded capability := by
  have hSteps := admitted_steps h
  have hStanding := admitted_standing h
  have hOptions : bound.options = attempt.before.options := by
    obtain ⟨runtime, -, hBind, -⟩ := admitted_some h
    have hControl := bindEntity_control attempt.before attempt.request
    rw [hBind] at hControl
    exact hControl.options
  rcases applySteps_evicts bound.schema grant attempt.request with hSpares | ⟨rest, hRest, hOnce⟩
  · have hEvicts : attempt.evicts = false := by
      rw [Attempt.evicts, ← hSteps]
      exact decide_eq_false hSpares
    have hCrowded : ∀ capability, ((bound.cell entity).entity.entryOf capability).Crowded bound
        attempt.request ↔ attempt.Crowded capability := by
      intro capability
      rw [crowded_iff, Attempt.Crowded, Attempt.rivals, hEvicts, hOptions, ← hStanding]
      simp only [Bool.false_and, Bool.not_false, List.filter_true]
      rfl
    have hRefuses := @runSteps_refuses bound attempt.request (bound.cell entity) _ hSpares
    simp only [hCrowded] at hRefuses
    rw [Attempt.claimed, ← hSteps]
    exact hRefuses
  · have hEvicts : attempt.evicts = true := by
      rw [Attempt.evicts, ← hSteps, hRest]
      exact decide_eq_true List.mem_cons_self
    have hCrowded : ∀ capability, ((supersedeOtherIdentities attempt.request.publisherKey
        attempt.request.reason (bound.cell entity)).entity.entryOf capability).Crowded bound
          attempt.request ↔ attempt.Crowded capability := by
      intro capability
      rw [crowded_iff, @evicted_rivals bound, Attempt.Crowded, Attempt.rivals, hEvicts, hOptions,
        ← hStanding]
      simp only [Bool.true_and]
      rfl
    have hRefuses := @runSteps_refuses bound attempt.request
      (supersedeOtherIdentities attempt.request.publisherKey attempt.request.reason
        (bound.cell entity)) _ hOnce
    simp only [hCrowded] at hRefuses
    have hClaimed : attempt.claimed = rest.filterMap ApplyStep.claimed := by
      rw [Attempt.claimed, ← hSteps, hRest]
      rfl
    rw [hClaimed, hRest]
    exact hRefuses

/-- A publication that passes every other check is refused exactly when a capability that it
claims is crowded. -/
theorem refused_iff_crowded (h : attempt.PassesOtherChecks) :
    attempt.RefusedForEvidence ↔ ∃ capability ∈ attempt.claimed, attempt.Crowded capability := by
  obtain ⟨hAdmitted, hAnswer⟩ := h
  obtain ⟨⟨grant, bound, entity⟩, hSome⟩ := Option.isSome_iff_exists.1 hAdmitted
  obtain ⟨hOk, hError⟩ := admitted_refuses hSome
  have hPublish := publish_admitted hSome
  have hOutcome : (applyRequest bound attempt.request entity
      (applySteps bound.schema grant attempt.request)).2 =
        (runSteps bound attempt.request (bound.cell entity)
          (applySteps bound.schema grant attempt.request)).2.map fun _ =>
            (runSteps bound attempt.request (bound.cell entity)
              (applySteps bound.schema grant attempt.request)).1.entity := rfl
  have hResult : attempt.result = (publish attempt.before attempt.request).2 := rfl
  rw [hPublish] at hResult
  generalize applyRequest bound attempt.request entity
    (applySteps bound.schema grant attempt.request) = applying at hOutcome hResult
  obtain ⟨applied, outcome⟩ := applying
  cases hRun : (runSteps bound attempt.request (bound.cell entity)
      (applySteps bound.schema grant attempt.request)).2 with
  | error e =>
      rw [hRun] at hOutcome
      obtain rfl : outcome = .error e := hOutcome
      have hReject : attempt.result = (reject applied attempt.request e).2 := hResult
      constructor
      · rintro ⟨result, hAnswered, hCode⟩
        refine hError e hRun ?_
        rw [hReject] at hAnswered
        cases hAnswered
        exact hCode
      · intro _
        refine hAnswer.resolve_left fun hCommitted => ?_
        unfold Attempt.committed at hCommitted
        rw [hReject] at hCommitted
        cases hCommitted
  | ok u =>
      rw [hRun] at hOutcome
      refine iff_of_false ?_ fun ⟨capability, hClaimed, hCrowded⟩ =>
        hOk hRun capability hClaimed hCrowded
      rintro ⟨result, hAnswered, hCode⟩
      subst hOutcome
      rw [hResult] at hAnswered
      obtain ⟨advanced, next, -, rfl, -⟩ := commit_ok (Prod.ext rfl hAnswered)
      cases hCode

end Admitted

/-- In every run a publication that passes every other check is not starved by the records
of fenced boots and of identities that wait for revalidation if and only if a capability it
claims that is crowded, if there is one, is crowded by identities that are alive. -/
theorem never_starved_iff (options : Options) (operations : List Operation)
    (operation : Operation) :
    ∀ attempt ∈ attempts (afterRun options operations) operation, attempt.PassesOtherChecks →
      (attempt.NeverStarved ↔
        ((∃ capability ∈ attempt.claimed, attempt.Crowded capability) →
          ∃ capability ∈ attempt.claimed, attempt.Crowded capability ∧
            attempt.before.options.maxEvidencePerCapability ≤
              (attempt.holders capability).length)) := by
  intro attempt _ hPasses
  unfold Attempt.NeverStarved
  rw [refused_iff_crowded hPasses]

/-! ### One worker that restarts -/

namespace Sample

def processClaim (boot : WorkerBootId) (attempt : String)
    (expected : CapabilitySetGeneration) : PublicationRequest :=
  publication boot attempt 1 expected (claim .supported .processBound)

/-- The worker claims the capability, is fenced and comes back under another boot. -/
def restartedWorker : List Operation :=
  setup ++ [.publish (processClaim bootOne "attempt-1" 0), .fenceWorkerBoot bootOne .unset,
    .registerPublisher publisher scope bootTwo]

def beforeFence : Attempt := ⟨afterRun tight setup, processClaim bootOne "attempt-1" 0⟩

def afterFence : Attempt :=
  ⟨afterRun tight restartedWorker, processClaim bootTwo "attempt-2" 1⟩

end Sample

open Sample

theorem first_worker_not_starved : beforeFence.PassesOtherChecks ∧ beforeFence.NeverStarved := by
  have hPasses : beforeFence.PassesOtherChecks := ⟨by decide +kernel, .inl (by decide +kernel)⟩
  have hNever := never_starved_iff tight setup (.publish beforeFence.request) beforeFence
    (List.mem_singleton_self _) hPasses
  refine ⟨hPasses, hNever.2 fun ⟨capability, hClaimed, hCrowded⟩ => ?_⟩
  have hNone : ∀ capability ∈ beforeFence.claimed, ¬beforeFence.Crowded capability := by
    unfold Attempt.Crowded
    decide +kernel
  exact absurd hCrowded (hNone capability hClaimed)

/-- With room for one record, the second boot of the worker is refused, although no identity
that is alive has any evidence. -/
theorem restarted_worker_starved :
    afterFence.PassesOtherChecks ∧ afterFence.RefusedForEvidence ∧
      (∀ capability ∈ afterFence.claimed, afterFence.holders capability = []) ∧
      ¬afterFence.NeverStarved := by
  have hCode : (afterFence.result.toOption.map PublicationResult.code) =
      some .evidenceLimitExceeded := by decide +kernel
  have hRefused : afterFence.RefusedForEvidence := by
    obtain ⟨result, hResult, hSame⟩ := Option.map_eq_some_iff.1 hCode
    refine ⟨result, ?_, hSame⟩
    cases hAnswer : afterFence.result with
    | error e => rw [hAnswer] at hResult; cases hResult
    | ok answer => rw [hAnswer] at hResult; cases hResult; rfl
  have hNoHolder : ∀ capability ∈ afterFence.claimed, afterFence.holders capability = [] := by
    decide +kernel
  refine ⟨⟨by decide +kernel, .inr hRefused⟩, hRefused, hNoHolder, fun hNever => ?_⟩
  obtain ⟨capability, hClaimed, -, hHolders⟩ := hNever hRefused
  rw [hNoHolder capability hClaimed] at hHolders
  have hLimit : ¬afterFence.before.options.maxEvidencePerCapability ≤ 0 := by decide +kernel
  exact hLimit hHolders

end FabricCapability.Ports

import FabricCapability.Ports.AtMostOnce
import FabricCapability.Ports.ValueDelimited

/-!
# What a replay answer stands for

`Publish` answers a request from the replay memory when the latest commit under its
publisher and boot has its attempt and its content digest.  So the answer is given for a
commit whose digested bytes, as long as SHA-256 does not collide on the requests at hand,
are those of the request.

The bytes are delimited, so they settle every field they are written from.  They are not
written from all that `Publish` acts on: of an edit `RequestContentDigest` leaves out the
firmware version, the driver version and the reason, which it writes for a claim, and a
capability is written as its rendered text.

## Main results

* `digestedBytes_settle`: what two requests with the same digested bytes share.
* `replay_answers_last_commit`: the commit that a replay answer stands for, and when it had
  the content of the request.
* `changed_edit_is_answered`: a changed edit that is answered as a replay.
-/

namespace FabricCapability.Ports

open FabricCapability.Verified
open FabricCapability.Verified.KeyedList
open FabricCapability.Verified.Runs

/-! ## The digested bytes -/

/-- A claim up to its identifier, of which only the rendered text is digested. -/
def CapabilityClaim.digested (claim : CapabilityClaim) : Bytes × CapabilityClaim :=
  (claim.capability.toText, { claim with capability := .unset })

/-- What is digested of an edit. -/
def IncrementalEdit.digested (edit : IncrementalEdit) :
    IncrementalOperation × Bytes × CapabilityClaim :=
  (edit.operation, edit.capability.toText,
    { edit.claim with
      capability := .unset, firmwareVersion := .unset, driverVersion := .unset,
      reason := .unset })

def claimBytes (claim : Bytes × CapabilityClaim) : Bytes :=
  putText claim.1 kMaxCapabilityIdLength ++
  claimDigestFields claim.2 ++
  putText claim.2.firmwareVersion.value kMaxVersionTokenLength ++
  putText claim.2.driverVersion.value kMaxVersionTokenLength ++
  putText claim.2.reason.value kMaxTextLength

def editBytes (edit : IncrementalOperation × Bytes × CapabilityClaim) : Bytes :=
  u8 edit.1.toByte ++
  putText edit.2.1 kMaxCapabilityIdLength ++
  claimDigestFields edit.2.2

/-- The bytes that `RequestContentDigest` digests. -/
def digestedBytes (request : PublicationRequest) (grant : AuthorityGrant) : Bytes :=
  u8 request.mode.toByte ++
  putText request.entity.toText kMaxEntityIdLength ++
  u64 request.entityGeneration ++
  u8 request.coverage.toByte ++
  putText request.authority.scope.value kMaxAuthorityScopeIdLength ++
  putText request.authority.source.value kMaxSourceIdLength ++
  u64 request.authority.sourceGeneration ++
  putText request.reason.value kMaxTextLength ++
  u8 (if grant.exclusive then 1 else 0) ++
  sizeU32 request.claims.length ++
  (request.claims.flatMap fun claim => claimBytes claim.digested) ++
  sizeU32 request.edits.length ++
  (request.edits.flatMap fun edit => editBytes edit.digested)

theorem requestContentDigest_eq (request : PublicationRequest) (grant : AuthorityGrant) :
    requestContentDigest request grant = computeDigest (digestedBytes request grant) := rfl

/-! ## What the bytes settle -/

theorem claimDigestFields_settle {a b : CapabilityClaim} {r s : Bytes}
    (hEq : claimDigestFields a ++ r = claimDigestFields b ++ s) :
    a.state = b.state ∧ a.value = b.value ∧ a.provenance = b.provenance ∧
      a.sourceClass = b.sourceClass ∧ a.durability = b.durability ∧ a.coverage = b.coverage ∧
      r = s := by
  simp only [claimDigestFields, List.append_assoc] at hEq
  obtain ⟨hState, hEq⟩ := delimited_enum (fun a b => by cases a <;> cases b <;> decide) trivial
    trivial hEq
  obtain ⟨hValue, hEq⟩ := CapabilityValue.delimited trivial trivial hEq
  obtain ⟨hProvenance, hEq⟩ := delimited_enum (fun a b => by cases a <;> cases b <;> decide)
    trivial trivial hEq
  obtain ⟨hSource, hEq⟩ := delimited_enum (fun a b => by cases a <;> cases b <;> decide)
    trivial trivial hEq
  obtain ⟨hDurability, hEq⟩ := delimited_enum (fun a b => by cases a <;> cases b <;> decide)
    trivial trivial hEq
  obtain ⟨hCoverage, hEq⟩ := delimited_enum (fun a b => by cases a <;> cases b <;> decide)
    trivial trivial hEq
  exact ⟨hState, hValue, hProvenance, hSource, hDurability, hCoverage, hEq⟩

theorem delimited_claim : Delimited
    (fun claim => claim.1.length ≤ kMaxCapabilityIdLength ∧ claim.2.capability = .unset)
    claimBytes := by
  rintro ⟨text, a⟩ ⟨text', b⟩ ⟨hText, hUnset⟩ ⟨hText', hUnset'⟩ r s hEq
  simp only [claimBytes, List.append_assoc] at hEq
  obtain ⟨hSame, hEq⟩ := delimited_text (by decide) hText hText' hEq
  obtain ⟨hState, hValue, hProvenance, hSource, hDurability, hCoverage, hEq⟩ :=
    claimDigestFields_settle hEq
  obtain ⟨hFirmware, hEq⟩ := delimited_token (by decide) (by decide) trivial trivial hEq
  obtain ⟨hDriver, hEq⟩ := delimited_token (by decide) (by decide) trivial trivial hEq
  obtain ⟨hReason, hEq⟩ := delimited_token (by decide) (by decide) trivial trivial hEq
  cases a
  cases b
  simp_all

theorem delimited_edit : Delimited
    (fun edit => edit.2.1.length ≤ kMaxCapabilityIdLength ∧
      ∃ e : IncrementalEdit, edit = e.digested) editBytes := by
  rintro ⟨operation, text, a⟩ ⟨operation', text', b⟩ ⟨hText, e, he⟩ ⟨hText', e', he'⟩ r s hEq
  simp only [editBytes, List.append_assoc] at hEq
  obtain ⟨hOperation, hEq⟩ := delimited_enum (fun a b => by cases a <;> cases b <;> decide)
    trivial trivial hEq
  obtain ⟨hSame, hEq⟩ := delimited_text (by decide) hText hText' hEq
  obtain ⟨hState, hValue, hProvenance, hSource, hDurability, hCoverage, hEq⟩ :=
    claimDigestFields_settle hEq
  obtain ⟨-, -, rfl⟩ : operation = _ ∧ text = _ ∧ a = _ := by simpa [IncrementalEdit.digested] using he
  obtain ⟨-, -, rfl⟩ : operation' = _ ∧ text' = _ ∧ b = _ := by simpa [IncrementalEdit.digested] using he'
  simp_all

/-- Two requests with the same digested fields. -/
structure SameDigested (a b : PublicationRequest) : Prop where
  mode : a.mode = b.mode
  entity : a.entity = b.entity
  entityGeneration : a.entityGeneration = b.entityGeneration
  coverage : a.coverage = b.coverage
  scope : a.authority.scope = b.authority.scope
  source : a.authority.source = b.authority.source
  sourceGeneration : a.authority.sourceGeneration = b.authority.sourceGeneration
  reason : a.reason = b.reason
  claims : a.claims.map CapabilityClaim.digested = b.claims.map CapabilityClaim.digested
  edits : a.edits.map IncrementalEdit.digested = b.edits.map IncrementalEdit.digested

/-- Stage 1 bounds both lists. -/
theorem checkShape_sizes {request : PublicationRequest} (h : checkShape request = .ok ()) :
    request.claims.length ≤ kMaxClaimsPerPublication ∧
      request.edits.length ≤ kMaxClaimsPerPublication := by
  unfold checkShape at h
  obtain ⟨-, h⟩ := ite_failure_eq_ok.1 h
  obtain ⟨-, h⟩ := ite_failure_eq_ok.1 h
  obtain ⟨-, h⟩ := ite_failure_eq_ok.1 h
  obtain ⟨-, h⟩ := ite_failure_eq_ok.1 h
  obtain ⟨-, h⟩ := ite_failure_eq_ok.1 h
  obtain ⟨-, h⟩ := ite_failure_eq_ok.1 h
  obtain ⟨-, h⟩ := ite_failure_eq_ok.1 h
  obtain ⟨-, h⟩ := ite_failure_eq_ok.1 h
  obtain ⟨-, h⟩ := ite_failure_eq_ok.1 h
  obtain ⟨hClaims, h⟩ := ite_failure_eq_ok.1 h
  obtain ⟨hEdits, -⟩ := ite_failure_eq_ok.1 h
  exact ⟨Nat.not_lt.1 hClaims, Nat.not_lt.1 hEdits⟩

/-- The digested bytes of two requests that pass stage 1 settle all digested fields. -/
theorem digestedBytes_settle {a b : PublicationRequest} {grant grant' : AuthorityGrant}
    (ha : checkShape a = .ok ()) (hb : checkShape b = .ok ())
    (hEq : digestedBytes a grant = digestedBytes b grant') : SameDigested a b := by
  obtain ⟨hClaims, hEdits⟩ := checkShape_sizes ha
  obtain ⟨hClaims', hEdits'⟩ := checkShape_sizes hb
  have hEq := congrArg (· ++ []) hEq
  simp only [digestedBytes, List.append_assoc] at hEq
  obtain ⟨hMode, hEq⟩ := delimited_enum (fun a b => by cases a <;> cases b <;> decide) trivial
    trivial hEq
  obtain ⟨hEntity, hEq⟩ := delimited_entity trivial trivial hEq
  obtain ⟨hGeneration, hEq⟩ := delimited_u64 trivial trivial hEq
  obtain ⟨hCoverage, hEq⟩ := delimited_enum (fun a b => by cases a <;> cases b <;> decide)
    trivial trivial hEq
  obtain ⟨hScope, hEq⟩ := delimited_token (by decide) (by decide) trivial trivial hEq
  obtain ⟨hSource, hEq⟩ := delimited_token (by decide) (by decide) trivial trivial hEq
  obtain ⟨hSourceGeneration, hEq⟩ := delimited_u64 trivial trivial hEq
  obtain ⟨hReason, hEq⟩ := delimited_token (by decide) (by decide) trivial trivial hEq
  obtain ⟨-, hEq⟩ := delimited_u8 trivial trivial hEq
  obtain ⟨hClaimViews, hEq⟩ := delimited_views delimited_claim (by decide) hClaims hClaims'
    (fun claim => ⟨claim.capability.length_toText_le, rfl⟩) hEq
  obtain ⟨hEditViews, -⟩ := delimited_views delimited_edit (by decide) hEdits hEdits'
    (fun edit => ⟨edit.capability.length_toText_le, edit, rfl⟩) hEq
  exact ⟨hMode, hEntity, hGeneration, hCoverage, hScope, hSource, hSourceGeneration, hReason,
    hClaimViews, hEditViews⟩

/-! ## Content -/

/-- The claim that the edit stores: none when it only takes evidence away. -/
def IncrementalEdit.stored (edit : IncrementalEdit) : Option CapabilityClaim :=
  match edit.operation with
  | .withdrawClaim | .supersedeSourceEvidence => none
  | _ => some edit.effectiveClaim

/-- What `Publish` acts on and stores of an edit. -/
def IncrementalEdit.content (edit : IncrementalEdit) :
    IncrementalOperation × CapabilityId × Option CapabilityClaim :=
  (edit.operation, edit.capability, edit.stored)

/-- The content of an edit that is not digested. -/
def IncrementalEdit.undigested (edit : IncrementalEdit) :
    CapabilityId × Option (VersionToken × VersionToken × ReasonToken) :=
  (edit.capability,
    edit.stored.map fun claim => (claim.firmwareVersion, claim.driverVersion, claim.reason))

/-- Two requests that publish the same. -/
structure SamePublished (a b : PublicationRequest) : Prop where
  mode : a.mode = b.mode
  entity : a.entity = b.entity
  entityGeneration : a.entityGeneration = b.entityGeneration
  coverage : a.coverage = b.coverage
  scope : a.authority.scope = b.authority.scope
  source : a.authority.source = b.authority.source
  sourceGeneration : a.authority.sourceGeneration = b.authority.sourceGeneration
  reason : a.reason = b.reason
  claims : a.claims = b.claims
  edits : a.edits.map IncrementalEdit.content = b.edits.map IncrementalEdit.content

/-- Two requests that agree in what is published and not digested: the capabilities behind
the rendered texts, and the versions and reasons of the edits that store a claim. -/
structure SameUndigested (a b : PublicationRequest) : Prop where
  claims : a.claims.map CapabilityClaim.capability = b.claims.map CapabilityClaim.capability
  edits : a.edits.map IncrementalEdit.undigested = b.edits.map IncrementalEdit.undigested

/-- Two lists that agree in two views agree in a third that the two determine. -/
theorem map_determined {α β γ δ : Type} {f : α → β} {g : α → γ} {h : α → δ}
    (hDetermine : ∀ x y, f x = f y → g x = g y → h x = h y) {xs ys : List α}
    (hf : xs.map f = ys.map f) (hg : xs.map g = ys.map g) : xs.map h = ys.map h := by
  induction xs generalizing ys with
  | nil =>
      rw [List.map_nil, eq_comm, List.map_eq_nil_iff] at hf
      rw [hf]
  | cons x xs ih =>
      cases ys with
      | nil => cases hf
      | cons y ys =>
          obtain ⟨hfHead, hfTail⟩ := List.cons.inj hf
          obtain ⟨hgHead, hgTail⟩ := List.cons.inj hg
          rw [List.map_cons, List.map_cons, hDetermine x y hfHead hgHead, ih hfTail hgTail]

theorem claim_determined (a b : CapabilityClaim) (hDigested : a.digested = b.digested)
    (hCapability : a.capability = b.capability) : id a = id b := by
  obtain ⟨-, hFields⟩ := Prod.mk.inj hDigested
  cases a
  cases b
  simp_all

theorem edit_determined (a b : IncrementalEdit) (hDigested : a.digested = b.digested)
    (hUndigested : a.undigested = b.undigested) : a.content = b.content := by
  obtain ⟨operation, capability, claim⟩ := a
  obtain ⟨operation', capability', claim'⟩ := b
  obtain ⟨hOperation, hRest⟩ := Prod.mk.inj hDigested
  obtain ⟨-, hFields⟩ := Prod.mk.inj hRest
  obtain ⟨hCapability, hStored⟩ := Prod.mk.inj hUndigested
  dsimp only at hOperation hFields hCapability
  subst hOperation hCapability
  cases claim
  cases claim'
  cases operation <;>
    simp_all [IncrementalEdit.content, IncrementalEdit.stored, IncrementalEdit.effectiveClaim]

/-- Requests with the same digested fields have the same content exactly when they agree in
what is not digested. -/
theorem SameDigested.content_iff {a b : PublicationRequest} (h : SameDigested a b) :
    SamePublished a b ↔ SameUndigested a b := by
  constructor
  · intro hContent
    have hEdits := congrArg (List.map fun content : IncrementalOperation × CapabilityId ×
        Option CapabilityClaim => (content.2.1, content.2.2.map fun claim =>
          (claim.firmwareVersion, claim.driverVersion, claim.reason))) hContent.edits
    rw [List.map_map, List.map_map] at hEdits
    exact ⟨congrArg _ hContent.claims, hEdits⟩
  · intro hUndigested
    have hClaims := map_determined claim_determined h.claims hUndigested.claims
    rw [List.map_id, List.map_id] at hClaims
    exact ⟨h.mode, h.entity, h.entityGeneration, h.coverage, h.scope, h.source,
      h.sourceGeneration, h.reason, hClaims,
      map_determined edit_determined h.edits hUndigested.edits⟩

/-! ## The commit behind a replay record -/

/-- The latest commit under a publisher and boot. -/
def lastCommit (key : PublisherKey) (past : List Attempt) : Option Attempt :=
  (past.filter fun attempt =>
    attempt.committed && attempt.request.publisherKey == key).getLast?

/-- The bytes that are digested of the request, under the grant of its scope. -/
def Attempt.digestedBytes (attempt : Attempt) : Option Bytes :=
  (attempt.before.findGrant attempt.request.authority.scope).map
    (Ports.digestedBytes attempt.request)

theorem lastCommit_append (key : PublisherKey) (past : List Attempt) (attempt : Attempt) :
    lastCommit key (past ++ [attempt]) =
      if attempt.committed = true ∧ attempt.request.publisherKey = key then some attempt
      else lastCommit key past := by
  unfold lastCommit
  rw [List.filter_append]
  by_cases hCommits : attempt.committed = true ∧ attempt.request.publisherKey = key
  · rw [if_pos hCommits, List.filter_cons_of_pos (by simpa using hCommits), List.filter_nil,
      List.getLast?_concat]
  · rw [if_neg hCommits, List.filter_cons_of_neg (by simpa using hCommits), List.filter_nil,
      List.append_nil]

theorem mem_of_lastCommit {key : PublisherKey} {past : List Attempt} {original : Attempt}
    (h : lastCommit key past = some original) :
    original ∈ past ∧ original.committed = true ∧ original.request.publisherKey = key := by
  have hMem := List.mem_filter.1 (List.mem_of_getLast? h)
  simpa using hMem

/-- The replay record is the one that the commit left. -/
def LeftBy (latest : ReplayRecord) (original : Attempt) : Prop :=
  latest.attempt = original.request.attempt ∧
    ∃ bytes, original.digestedBytes = some bytes ∧
      latest.contentDigest = (computeDigest bytes).toText

/-- The latest record of each registration was left by the latest commit under it. -/
def Recorded (past : List Attempt) (registry : Registry) : Prop :=
  ∀ held ∈ registry.publishers, ∀ latest, held.2.replay.getLast? = some latest →
    ∃ original, lastCommit held.1 past = some original ∧ LeftBy latest original

theorem recorded_of_publishers {past : List Attempt} {a b : Registry}
    (h : ∀ held ∈ b.publishers, held.2.replay = [] ∨ ∃ kept ∈ a.publishers,
      held.1 = kept.1 ∧ held.2.replay = kept.2.replay) (hRecorded : Recorded past a) :
    Recorded past b := by
  intro held hMem latest hLatest
  rcases h held hMem with hEmpty | ⟨kept, hKept, hKey, hReplay⟩
  · rw [hEmpty] at hLatest
    cases hLatest
  · rw [hReplay] at hLatest
    rw [hKey]
    exact hRecorded kept hKept latest hLatest

theorem attempt_recorded (past : List Attempt) (attempt : Attempt)
    (h : Recorded past attempt.before) : Recorded (past ++ [attempt]) attempt.after := by
  intro held hMem latest hLatest
  rw [lastCommit_append]
  cases hCommitted : attempt.committed with
  | false =>
      rw [uncommitted_publishers hCommitted] at hMem
      rw [if_neg (by simp)]
      exact h held hMem latest hLatest
  | true =>
      obtain ⟨result, ⟨c⟩⟩ := attempt.committed_stages hCommitted
      rw [c.publishers] at hMem
      obtain ⟨known, hKnown, hHeld⟩ := List.mem_map.1 hMem
      by_cases hKey : known.1 = attempt.request.publisherKey
      · -- the registrations of the committing publisher end with the new record
        dsimp only at hHeld
        rw [if_pos hKey] at hHeld
        subst hHeld
        dsimp only at hLatest ⊢
        rw [List.getLast?_concat, Option.some.injEq] at hLatest
        subst hLatest
        have hGrant := (validateRequest_ok c.valid).granted
        refine ⟨attempt, if_pos ⟨rfl, hKey.symm⟩, rfl, _, ?_, rfl⟩
        rw [Attempt.digestedBytes, hGrant]
        rfl
      · dsimp only at hHeld
        rw [if_neg hKey] at hHeld
        subst hHeld
        rw [if_neg fun hSame => hKey hSame.2.symm]
        exact h known hKnown latest hLatest

theorem loadRegistrations_forget (epoch : CoordinatorEpoch) (payload : StorePayload)
    (fenced : List WorkerBootId) (publishers : List (PublisherKey × PublisherRuntime))
    (stored : List StoredRegistration) (h : ∀ held ∈ publishers, held.2.replay = []) :
    ∀ held ∈ loadRegistrations epoch payload fenced publishers stored,
      held.2.replay = [] := by
  induction stored generalizing publishers with
  | nil => exact h
  | cons first rest ih =>
      unfold loadRegistrations
      split
      · exact ih publishers h
      · refine ih _ fun held hMem => ?_
        rcases mem_upsert hMem with rfl | hMem
        · rfl
        · exact h held hMem

theorem step_recorded (past : List Attempt) (registry : Registry) (operation : Operation)
    (h : Recorded past registry) :
    Recorded (past ++ attempts registry operation) (operation.apply registry) := by
  have hSame : ∀ after : Registry, after.publishers = registry.publishers →
      Recorded (past ++ []) after := by
    intro after hPublishers
    rw [List.append_nil]
    refine recorded_of_publishers (fun held hMem => .inr ⟨held, ?_, rfl, rfl⟩) h
    rwa [hPublishers] at hMem
  have hUpsert : ∀ (after : Registry) (key : PublisherKey) (runtime : PublisherRuntime),
      after.publishers = upsert Prod.fst (key, runtime) registry.publishers →
      (runtime.replay = [] ∨ ∃ kept ∈ registry.publishers,
        key = kept.1 ∧ runtime.replay = kept.2.replay) → Recorded (past ++ []) after := by
    intro after key runtime hPublishers hRuntime
    rw [List.append_nil]
    refine recorded_of_publishers (fun held hMem => ?_) h
    rw [hPublishers] at hMem
    rcases mem_upsert hMem with rfl | hMem
    · exact hRuntime
    · exact .inr ⟨held, hMem, rfl, rfl⟩
  cases operation with
  | publish request => exact attempt_recorded past ⟨registry, request⟩ h
  | publishBatch requests => exact publishBatch_history (fun past attempt _ => attempt_recorded past attempt) h
  | fenceWorkerBoot workerBoot reason =>
      rcases fenceWorkerBoot_publishers registry workerBoot reason with
        hRegistry | ⟨-, publisher, hPublishers⟩
      · exact hSame _ (congrArg Registry.publishers hRegistry)
      · show Recorded (past ++ []) _
        rw [List.append_nil]
        refine recorded_of_publishers (fun held hMem => .inr ⟨held, ?_, rfl, rfl⟩) h
        rw [Operation.apply, hPublishers] at hMem
        exact (List.mem_filter.1 hMem).1
  | advanceCoordinatorEpoch reason =>
      rcases advanceCoordinatorEpoch_fences registry reason with hRegistry | ⟨-, hNone, -⟩
      · exact hSame _ (congrArg Registry.publishers hRegistry)
      · show Recorded (past ++ []) _
        rw [List.append_nil]
        refine recorded_of_publishers (fun held hMem => ?_) h
        rw [Operation.apply, hNone] at hMem
        cases hMem
  | invalidateEntity entity generation reason =>
      exact hSame _ (invalidateEntity_publishers ..)
  | invalidateSource source reason => exact hSame _ (invalidateSource_publishers ..)
  | observeEntityGeneration entity generation reason =>
      exact hSame _ (observeEntityGeneration_publishers ..)
  | registerPublisher publisher scope workerBoot =>
      rcases registerPublisher_publishers registry publisher scope workerBoot with
        ⟨-, hRegistry⟩ | ⟨-, registration, hPublishers⟩
      · exact hSame _ (congrArg Registry.publishers hRegistry)
      · exact hUpsert _ _ _ hPublishers (.inl rfl)
  | retirePublisher publisher workerBoot =>
      rcases retirePublisher_publishers registry publisher workerBoot with
        hPublishers | ⟨runtime, hFound, hPublishers⟩
      · exact hSame _ hPublishers
      · refine hUpsert _ _ _ hPublishers (.inr ⟨(⟨publisher, workerBoot⟩, runtime), ?_, rfl, rfl⟩)
        unfold Registry.findRuntime at hFound
        obtain ⟨held, hHeld, rfl⟩ := Option.map_eq_some_iff.1 hFound
        have hKey := lookup_key hHeld
        rw [← hKey]
        exact lookup_mem hHeld
  | declareAuthority grant => exact hSame _ (declareAuthority_publishers ..)
  | registerVendorDescriptor descriptor =>
      exact hSame _ (registerVendorDescriptor_publishers ..)
  | load config file =>
      show Recorded (past ++ []) _
      rw [List.append_nil, Operation.apply]
      unfold load
      split
      · exact h
      · rename_i payload read _
        refine recorded_of_publishers (fun held hMem => .inl ?_) h
        exact loadRegistrations_forget _ payload _ [] payload.registrations (by simp) held hMem
  | rehash publishers =>
      show Recorded (past ++ []) _
      rw [List.append_nil, Operation.apply]
      split
      · rename_i hPerm
        refine recorded_of_publishers (fun held hMem => .inr ⟨held, ?_, rfl, rfl⟩) h
        exact hPerm.mem_iff.1 hMem
      · exact h

/-- In every run. -/
theorem run_recorded (options : Options) (operations : List Operation) :
    Recorded (publications options operations) (afterRun options operations) := by
  have hInit : Recorded [] (Registry.init options) := by
    intro held hMem
    unfold Registry.init at hMem
    split at hMem <;> cases hMem
  exact @trace_invariant _ _ _ _ (fun _ _ => True) _ _ _ _
    (fun past registry operation _ => step_recorded past registry operation)
    (guarded_of_forall fun _ _ => trivial) _ hInit

/-! ## Replay answers -/

/-- The call returned a result with status `IdempotentReplay`. -/
def Attempt.replayed (attempt : Attempt) : Bool :=
  match attempt.result with
  | .ok result => result.status == .idempotentReplay
  | .error _ => false

/-- The digests of the two publications tell their digested bytes apart. -/
def NoCollision (first second : Attempt) : Prop :=
  ∀ x ∈ first.digestedBytes, ∀ y ∈ second.digestedBytes,
    computeDigest x = computeDigest y → x = y

/-- A replay answer repeats the latest record of the registration. -/
theorem replayed_latest {registry : Registry} {request : PublicationRequest}
    (hReplayed : (Attempt.mk registry request).replayed = true) :
    ∃ runtime grant latest, validateRequest registry request = .ok (runtime, grant) ∧
      runtime.replay.getLast? = some latest ∧ latest.attempt = request.attempt ∧
      latest.contentDigest = (requestContentDigest request grant).toText := by
  obtain ⟨result, hResult, hStatus⟩ : ∃ result, (publish registry request).2 = .ok result ∧
      result.status = .idempotentReplay := by
    unfold Attempt.replayed Attempt.result at hReplayed
    split at hReplayed
    · rename_i result hResult
      exact ⟨result, hResult, by simpa using hReplayed⟩
    · cases hReplayed
  have hExit := publish_exit registry request
  have hRejected : ∀ (base : Registry) (e : Error),
      (reject base request e).2 = .ok result → False := by
    intro base e hEq
    rw [reject_status base request e hEq] at hStatus
    cases hStatus
  generalize (publish registry request).1 = after at hExit
  generalize (publish registry request).2 = outcome at hExit hResult
  cases hExit with
  | invalid => exact (hRejected _ _ hResult).elim
  | refused => exact (hRejected _ _ hResult).elim
  | failed => cases hResult
  | conflicting => exact (hRejected _ _ hResult).elim
  | @replayed runtime grant bound entity latest valid binds replays =>
      refine ⟨runtime, grant, latest, valid, ?_⟩
      unfold classifyAttempt at replays
      split at replays
      · cases replays
      · rename_i found hFound
        split at replays
        · rename_i hAttempt
          split at replays
          · cases replays
          · rename_i hDigest
            cases replays
            exact ⟨hFound, hAttempt, not_not.1 hDigest⟩
        · split at replays <;> cases replays
  | unmet => exact (hRejected _ _ hResult).elim
  | unapplied => exact (hRejected _ _ hResult).elim
  | uncommitted => cases hResult
  | committed stages =>
      cases hResult
      rw [commit_status stages.commits] at hStatus
      cases hStatus

/-- In every run, a replay answer stands for the latest commit under the publisher and boot
of the request: that commit had the attempt of the request and the same digested fields.
It had the same content exactly when the two agree in what is not digested. -/
theorem replay_answers_last_commit (options : Options) (operations : List Operation)
    (request : PublicationRequest)
    (hReplayed : (Attempt.mk (afterRun options operations) request).replayed = true)
    (hDigest : ∀ earlier ∈ publications options operations,
      NoCollision earlier ⟨afterRun options operations, request⟩) :
    ∃ original, lastCommit request.publisherKey (publications options operations) =
        some original ∧
      original.request.attempt = request.attempt ∧ SameDigested original.request request ∧
      (SamePublished original.request request ↔ SameUndigested original.request request) := by
  obtain ⟨runtime, grant, latest, hRequest, hLatest, hAttempt, hContent⟩ :=
    replayed_latest hReplayed
  have hValid := validateRequest_ok hRequest
  have hFound := hValid.registered
  unfold Registry.findRuntime at hFound
  obtain ⟨held, hHeld, rfl⟩ := Option.map_eq_some_iff.1 hFound
  obtain ⟨original, hOriginal, hSameAttempt, bytes, hBytes, hRecord⟩ :=
    run_recorded options operations held (lookup_mem hHeld) latest hLatest
  rw [lookup_key hHeld] at hOriginal
  obtain ⟨hMem, hCommitted, -⟩ := mem_of_lastCommit hOriginal
  obtain ⟨committed, ⟨c⟩⟩ := original.committed_stages hCommitted
  have hStages := validateRequest_ok c.valid
  have hBytesHere : (Attempt.mk (afterRun options operations) request).digestedBytes =
      some (digestedBytes request grant) := by
    rw [Attempt.digestedBytes, hValid.granted]
    rfl
  have hBytesThere : original.digestedBytes = some (digestedBytes original.request c.grant) := by
    rw [Attempt.digestedBytes, hStages.granted]
    rfl
  -- equal records are equal digests, and equal digests are equal bytes
  have hSameBytes : bytes = digestedBytes request grant :=
    hDigest original hMem bytes hBytes _ hBytesHere
      (Digest.toText_injective (hRecord.symm.trans hContent))
  rw [hBytesThere, Option.some.injEq] at hBytes
  have hSame : SameDigested original.request request :=
    digestedBytes_settle hStages.shape hValid.shape (hBytes.trans hSameBytes)
  exact ⟨original, hOriginal, hSameAttempt.symm.trans hAttempt, hSame, hSame.content_iff⟩

/-! ### A changed edit -/

namespace Sample

/-- An incremental publication of one edit, for a reason. -/
def incremental (reason : String) : PublicationRequest :=
  { publication bootOne "attempt-1" 1 0 (claim .supported .processBound) with
    mode := .incremental
    claims := []
    edits := [{ capability, claim := { claim .supported .processBound with
      reason := token _ reason } }] }

def firstEdit : List Operation := setup ++ [.publish (incremental "probed")]

end Sample

theorem retry_answers_last_commit :
    ∃ original, lastCommit (Sample.incremental "probed").publisherKey
        (publications {} Sample.firstEdit) = some original ∧
      original.request.attempt = (Sample.incremental "probed").attempt ∧
      SameDigested original.request (Sample.incremental "probed") ∧
      (SamePublished original.request (Sample.incremental "probed") ↔
        SameUndigested original.request (Sample.incremental "probed")) := by
  have hRun : (Attempt.mk (afterRun {} Sample.firstEdit) (Sample.incremental "probed")).replayed =
      true ∧ ∀ earlier ∈ publications {} Sample.firstEdit, earlier.digestedBytes =
        (Attempt.mk (afterRun {} Sample.firstEdit) (Sample.incremental "probed")).digestedBytes := by
    decide +kernel
  refine replay_answers_last_commit {} Sample.firstEdit (Sample.incremental "probed") hRun.1 ?_
  intro earlier hMem x hx y hy _
  rw [Option.mem_def, hRun.2 earlier hMem, Option.mem_def.1 hy] at hx
  exact (Option.some.inj hx).symm

/-- A retry that gives another reason for its edit is answered as a replay, though nothing
was committed with its content.  The digests do not collide: the digested bytes are the
same. -/
theorem changed_edit_is_answered :
    (Attempt.mk (afterRun {} Sample.firstEdit) (Sample.incremental "measured")).replayed = true ∧
    (∀ earlier ∈ publications {} Sample.firstEdit, earlier.digestedBytes =
      (Attempt.mk (afterRun {} Sample.firstEdit) (Sample.incremental "measured")).digestedBytes) ∧
    ∀ earlier ∈ publications {} Sample.firstEdit,
      ¬SamePublished earlier.request (Sample.incremental "measured") := by
  have hRun : (Attempt.mk (afterRun {} Sample.firstEdit) (Sample.incremental "measured")).replayed =
      true ∧ (∀ earlier ∈ publications {} Sample.firstEdit, earlier.digestedBytes =
        (Attempt.mk (afterRun {} Sample.firstEdit) (Sample.incremental "measured")).digestedBytes) ∧
      ∀ earlier ∈ publications {} Sample.firstEdit,
        earlier.request.edits.map IncrementalEdit.content ≠
          (Sample.incremental "measured").edits.map IncrementalEdit.content := by
    decide +kernel
  exact ⟨hRun.1, hRun.2.1, fun earlier hMem hContent => hRun.2.2 earlier hMem hContent.edits⟩

end FabricCapability.Ports

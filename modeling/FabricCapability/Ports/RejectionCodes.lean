import FabricCapability.Ports.EntityRules

/-!
# The codes of a refusal

Two codes tell a publisher that the set generation it expected is not the published one.
`Publish` uses them in stage 9 and nowhere else, so a publication that expects the published
generation is refused with another code, if it is refused at all.

## Main results

* `publish_code`: a result with one of the two codes comes from stage 9.
* `publish_failure_code`: a failure has neither.
-/

namespace FabricCapability.Ports

/-- The codes of stage 9. -/
def generationCodes : List ErrorCode :=
  [.capabilitySetGenerationStale, .capabilitySetGenerationMismatch]

/-- Whatever error is returned has another code. -/
def OtherCode {α : Type} (x : Outcome α) : Prop := ∀ e, x = .error e → e.code ∉ generationCodes

section OtherCode

variable {α β : Type}

theorem OtherCode.ok (a : α) : OtherCode (.ok a : Outcome α) := by
  intro e h
  cases h

theorem OtherCode.failure {code : ErrorCode} {message detail : Bytes}
    (h : code ∉ generationCodes) :
    OtherCode (Ports.failure code message detail : Outcome α) := by
  intro e hError
  obtain rfl := Except.error.inj hError
  exact h

theorem OtherCode.ite {c : Prop} [Decidable c] {x y : Outcome α} (hx : OtherCode x)
    (hy : OtherCode y) : OtherCode (if c then x else y) := by
  by_cases h : c
  · rwa [if_pos h]
  · rwa [if_neg h]

theorem OtherCode.bind {x : Outcome α} {f : α → Outcome β} (hx : OtherCode x)
    (hf : ∀ a, OtherCode (f a)) : OtherCode (x >>= f) := by
  intro e h
  cases x with
  | error e' =>
      obtain rfl := Except.error.inj h
      exact hx _ rfl
  | ok a => exact hf a e h

/-- A check that fails with a code of its own, or passes. -/
theorem OtherCode.guard {c : Prop} [Decidable c] {code : ErrorCode} {message detail : Bytes}
    {y : Outcome α} (h : code ∉ generationCodes) (hy : OtherCode y) :
    OtherCode (if c then Ports.failure code message detail else y) :=
  .ite (.failure h) hy

end OtherCode

/-! ## Stages 1 to 5 -/

section Values

variable {d : CapabilityDescriptor} {describe : Bytes → Bytes}

theorem checkTupleMembers_code (tuples : List TupleValue) :
    OtherCode (checkTupleMembers d describe tuples) := by
  induction tuples with
  | nil => exact .ok ()
  | cons tuple rest ih =>
      unfold checkTupleMembers
      cases tupleFailure d tuple with
      | none => exact ih
      | some detail => exact .failure (by decide)

theorem validateTypedValue_code (storage : ValueStorage) :
    OtherCode (validateTypedValue d describe storage) := by
  cases storage with
  | absent => exact .failure (by decide)
  | boolean value => exact .ok ()
  | integer raw => exact .guard (by decide) (.ok ())
  | quantity q => exact .guard (by decide) (.guard (by decide) (.ok ()))
  | enumeration e => exact .guard (by decide) (.guard (by decide) (.ok ()))
  | bitSet s => exact .guard (by decide) (.ok ())
  | numericSet s =>
      refine .guard (by decide) (.guard (by decide) ?_)
      cases s.values.find? fun e => e < d.minimumQuantity || e > d.maximumQuantity with
      | none => exact .ok ()
      | some element => exact .failure (by decide)
  | numericRange r => exact .guard (by decide) (.guard (by decide) (.ok ()))
  | versionInterval v => exact .ok ()
  | protocolSet s =>
      refine .ite (.ok ()) ?_
      cases s.protocols.find? fun p => !d.allowedProtocols.contains p with
      | none => exact .ok ()
      | some protocol => exact .failure (by decide)
  | tuple t =>
      unfold validateTypedValue
      dsimp only
      cases tupleFailure d t with
      | none => exact .ok ()
      | some detail => exact .failure (by decide)
  | tupleSet s =>
      exact .bind (checkTupleMembers_code s.tuples) fun _ => .guard (by decide) (.ok ())
  | record r => exact .ok ()
  | opaquePayload p => exact .guard (by decide) (.ok ())
  | enumSet s =>
      refine .guard (by decide) (.guard (by decide) ?_)
      cases s.codes.find? fun code => !enumDomainDeclares s.domain code with
      | none => exact .ok ()
      | some code => exact .failure (by decide)

end Values

theorem validateValueAgainstDescriptor_code (d : CapabilityDescriptor)
    (value : CapabilityValue) : OtherCode (validateValueAgainstDescriptor d value) := by
  unfold validateValueAgainstDescriptor
  rw [validateCanonical_eq_ok value]
  exact .guard (by decide) (validateTypedValue_code value.storage)

section Checks

variable (registry : Registry) (request : PublicationRequest)

theorem checkShape_code : OtherCode (checkShape request) := by
  unfold checkShape
  refine .guard (by decide) (.guard (by decide) (.guard (by decide) (.guard (by decide) ?_)))
  refine .guard (by decide) (.guard (by decide) (.guard (by decide) (.guard (by decide) ?_)))
  exact .guard (by decide) (.guard (by decide) (.guard (by decide) (.ok ())))

theorem checkEpoch_code : OtherCode (checkEpoch registry request) := by
  unfold checkEpoch
  exact .guard (by decide) (.guard (by decide) (.ok ()))

theorem checkPublisher_code : OtherCode (checkPublisher registry request) := by
  unfold checkPublisher
  refine .guard (by decide) ?_
  cases registry.findRuntime request.publisherKey with
  | none => exact .failure (by decide)
  | some runtime =>
      exact .guard (by decide) (.guard (by decide) (.guard (by decide) (.ok runtime)))

theorem checkGrant_code : OtherCode (checkGrant registry request) := by
  unfold checkGrant
  cases registry.findGrant request.authority.scope with
  | none => exact .failure (by decide)
  | some grant =>
      exact .guard (by decide) (.guard (by decide) (.guard (by decide) (.ok grant)))

theorem find_code (schema : CapabilitySchema) (id : CapabilityId) :
    OtherCode (schema.find id) := by
  unfold CapabilitySchema.find
  cases schema.lookup id with
  | none => exact .failure (by decide)
  | some descriptor => exact .ok descriptor

theorem validateClaimShape_code (descriptor : CapabilityDescriptor) (claim : CapabilityClaim) :
    OtherCode (validateClaimShape descriptor claim) := by
  unfold validateClaimShape
  refine .ite (.guard (by decide) (.ok ())) (.guard (by decide) ?_)
  exact validateValueAgainstDescriptor_code descriptor claim.value

theorem checkClaims_code (schema : CapabilitySchema) (grant : AuthorityGrant)
    (seen : List Bytes) (claims : List CapabilityClaim) :
    OtherCode (checkClaims schema grant seen claims) := by
  induction claims generalizing seen with
  | nil => exact .ok ()
  | cons claim claims ih =>
      refine .bind ?_ fun _ => ih _
      unfold checkClaim namespaceViolation
      refine .guard (by decide) (.guard (by decide) (.guard (by decide) ?_))
      refine .bind (find_code schema claim.capability) fun descriptor => ?_
      refine .guard (by decide) (.guard (by decide) ?_)
      exact .guard (by decide) (.guard (by decide) (validateClaimShape_code descriptor claim))

theorem checkEdits_code (schema : CapabilitySchema) (grant : AuthorityGrant)
    (edits : List IncrementalEdit) : OtherCode (checkEdits schema grant edits) := by
  induction edits with
  | nil => exact .ok ()
  | cons edit edits ih =>
      refine .bind ?_ fun _ => ih
      unfold checkEdit namespaceViolation
      refine .guard (by decide) (.guard (by decide) ?_)
      refine .bind (find_code schema edit.capability) fun descriptor => .ite (.ok ()) ?_
      refine .guard (by decide) (.guard (by decide) ?_)
      exact validateClaimShape_code descriptor edit.effectiveClaim

theorem validateRequest_code : OtherCode (validateRequest registry request) := by
  unfold validateRequest
  refine .bind (checkShape_code request) fun _ => ?_
  refine .bind (checkEpoch_code registry request) fun _ => ?_
  refine .bind (checkPublisher_code registry request) fun runtime => ?_
  refine .bind (checkGrant_code registry request) fun grant => ?_
  refine .bind (checkClaims_code registry.schema grant [] request.claims) fun _ => ?_
  exact .bind (checkEdits_code registry.schema grant request.edits) fun _ =>
    .ok (runtime, grant)

end Checks

/-! ## Stages 6 to 11 -/

section Stages

variable {registry : Registry} {request : PublicationRequest}

def Refusal.error : Refusal → Error
  | .rejected e | .failed e => e

theorem bindGeneration_code {entity : EntityState} {refusal : Refusal}
    (h : (bindGeneration registry request entity).2 = .error refusal) :
    refusal.error.code ∉ generationCodes := by
  unfold bindGeneration at h
  split at h
  · obtain rfl := Except.error.inj h
    show ErrorCode.entityGenerationStale ∉ generationCodes
    decide
  · split at h
    · dsimp only at h
      split at h
      · obtain rfl := Except.error.inj h
        show ErrorCode.arithmeticOverflow ∉ generationCodes
        decide
      · cases h
    · cases h

theorem bindEntity_code {refusal : Refusal}
    (h : (bindEntity registry request).2 = .error refusal) :
    refusal.error.code ∉ generationCodes := by
  unfold bindEntity at h
  split at h
  · exact bindGeneration_code h
  · split at h
    · obtain rfl := Except.error.inj h
      show ErrorCode.tooManyItems ∉ generationCodes
      decide
    · exact bindGeneration_code h

theorem classifyAttempt_code (runtime : PublisherRuntime) (contentDigest : Bytes) :
    OtherCode (classifyAttempt runtime request contentDigest) := by
  unfold classifyAttempt
  cases runtime.replay.getLast? with
  | none => exact .ok none
  | some latest =>
      exact .ite (.guard (by decide) (.ok _)) (.guard (by decide) (.ok none))

theorem applyToEntry_code (claim : CapabilityClaim) (coverage : Coverage) (cell : Cell)
    (entry : CapabilityEntry) :
    OtherCode (applyToEntry registry request claim coverage cell entry).2 := by
  unfold applyToEntry
  dsimp only
  split
  · exact .failure (by decide)
  · split
    · exact .failure (by decide)
    · exact .ok ()

theorem ApplyStep.run_code (cell : Cell) (step : ApplyStep) :
    OtherCode (step.run registry request cell).2 := by
  cases step with
  | supersedeOtherIdentities => exact .ok ()
  | supersedeIdentity => exact .ok ()
  | countSuperseded => exact .ok ()
  | applyClaim claim coverage =>
      show OtherCode (Ports.applyClaim registry request claim coverage cell).2
      unfold Ports.applyClaim
      split
      · exact applyToEntry_code claim coverage cell _
      · split
        · exact .failure (by decide)
        · exact applyToEntry_code claim coverage cell _
  | withdrawClaim capability =>
      show OtherCode (withdrawIdentityClaim request capability cell).2
      unfold withdrawIdentityClaim
      split
      · exact .ok ()
      · split
        · dsimp only
          split
          · exact .failure (by decide)
          · exact .ok ()
        · exact .ok ()

theorem runSteps_code (cell : Cell) (steps : List ApplyStep) :
    OtherCode (runSteps registry request cell steps).2 := by
  induction steps generalizing cell with
  | nil => exact .ok ()
  | cons step steps ih =>
      have hStep := @ApplyStep.run_code registry request cell step
      unfold runSteps
      cases hRun : step.run registry request cell with
      | mk next outcome =>
          rw [hRun] at hStep
          cases outcome with
          | error e => exact hStep
          | ok u => exact ih next

theorem applyRequest_code {entity : EntityState} {steps : List ApplyStep} {applied : Registry}
    {e : Error} (h : applyRequest registry request entity steps = (applied, .error e)) :
    e.code ∉ generationCodes := by
  have hRun := @runSteps_code registry request (registry.cell entity) steps
  unfold applyRequest at h
  cases hSteps : runSteps registry request (registry.cell entity) steps with
  | mk cell outcome =>
      rw [hSteps] at hRun h
      cases outcome with
      | error e' =>
          obtain rfl := Except.error.inj (congrArg Prod.snd h)
          exact hRun e' rfl
      | ok u => cases congrArg Prod.snd h

theorem commit_code {before : Option EntityCapabilitySet} {entity : EntityState}
    {steps : List ApplyStep} {contentDigest : Bytes} {after : Registry} {e : Error}
    (h : commit registry request before entity steps contentDigest = (after, .error e)) :
    e.code ∉ generationCodes := by
  have hAdvance := commit_error h
  unfold advanceGenerations at hAdvance
  split at hAdvance
  · split at hAdvance
    · obtain rfl := Except.error.inj (congrArg Prod.snd hAdvance)
      decide
    · dsimp only at hAdvance
      split at hAdvance
      · obtain rfl := Except.error.inj (congrArg Prod.snd hAdvance)
        decide
      · cases congrArg Prod.snd hAdvance
  · cases congrArg Prod.snd hAdvance

/-- The bound entity has the expected generation: stages 8 and 9 fail in stage 8 only. -/
theorem checkPreconditions_code {entity : EntityState}
    (hExpected : request.expectedSetGeneration = entity.publishedGeneration) :
    OtherCode (checkPreconditions entity request) := by
  unfold checkPreconditions
  dsimp only
  unfold EntityState.publishedGeneration at hExpected
  refine .guard (by decide) ?_
  by_cases hSet : entity.hasSet = true
  · rw [if_pos hSet] at hExpected ⊢
    rw [hExpected, if_neg (UInt64.lt_irrefl _), if_neg (UInt64.lt_irrefl _)]
    exact .ok ()
  · rw [if_neg hSet] at hExpected ⊢
    rw [hExpected, if_neg (not_not.2 rfl)]
    exact .ok ()

theorem reject_code {e : Error} {result : PublicationResult}
    (h : (reject registry request e).2 = .ok result) : result.code = e.code := by
  unfold reject at h
  obtain rfl := Except.ok.inj h
  rfl

/-- A publication that expects the generation of the entity that stage 6 binds is refused
with another code, if at all. -/
theorem publish_code {result : PublicationResult}
    (hExpected : ∀ bound entity, bindEntity registry request = (bound, .ok entity) →
      request.expectedSetGeneration = entity.publishedGeneration)
    (h : (publish registry request).2 = .ok result) : result.code ∉ generationCodes := by
  have hExit := publish_exit registry request
  generalize (publish registry request).1 = after at hExit
  rw [h] at hExit
  generalize hOutcome : (Except.ok result : Outcome PublicationResult) = outcome at hExit
  cases hExit with
  | invalid hInvalid =>
      rw [reject_code hOutcome.symm]
      exact validateRequest_code registry request _ hInvalid
  | refused hValid hRefuses =>
      rw [reject_code hOutcome.symm]
      exact bindEntity_code (congrArg Prod.snd hRefuses)
  | conflicting hValid hBinds hConflicts =>
      rw [reject_code hOutcome.symm]
      exact classifyAttempt_code _ _ _ hConflicts
  | unmet hValid hBinds hUnmet =>
      rw [reject_code hOutcome.symm]
      exact checkPreconditions_code (hExpected _ _ hBinds) _ hUnmet
  | unapplied hValid hBinds hChecked hFails =>
      rw [reject_code hOutcome.symm]
      exact applyRequest_code hFails
  | failed => cases hOutcome
  | uncommitted => cases hOutcome
  | replayed =>
      obtain rfl := Except.ok.inj hOutcome
      show ErrorCode.ok ∉ generationCodes
      decide
  | committed stages =>
      obtain rfl := Except.ok.inj hOutcome
      obtain ⟨advanced, next, -, hResult, -⟩ := commit_ok stages.commits
      rw [hResult]
      show ErrorCode.ok ∉ generationCodes
      decide

theorem publish_failure_code {e : Error} (h : (publish registry request).2 = .error e) :
    e.code ∉ generationCodes := by
  have hExit := publish_exit registry request
  generalize (publish registry request).1 = after at hExit
  rw [h] at hExit
  generalize hOutcome : (Except.error e : Outcome PublicationResult) = outcome at hExit
  cases hExit with
  | failed hValid hFails =>
      obtain rfl := Except.error.inj hOutcome
      exact bindEntity_code (congrArg Prod.snd hFails)
  | uncommitted hValid hBinds hChecked hApplies hFails =>
      obtain rfl := Except.error.inj hOutcome
      exact commit_code hFails
  | invalid => cases hOutcome
  | refused => cases hOutcome
  | conflicting => cases hOutcome
  | unmet => cases hOutcome
  | unapplied => cases hOutcome
  | replayed => cases hOutcome
  | committed => cases hOutcome

end Stages

end FabricCapability.Ports

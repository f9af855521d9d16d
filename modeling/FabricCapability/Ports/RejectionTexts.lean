import FabricCapability.Ports.ComposedResults
import FabricCapability.Ports.EntityRules

/-!
# The texts of a refusal

A publication that is refused is answered with the error that stopped it.  Its message is a
literal; its detail is composed from identifiers, names of enumerators and decimal numbers.
None of these holds a control character, so none of the texts of a refusal does, whatever
the request.

`Legible` says this of what a check may return, and follows the structure of the checks.

## Main results

* `validateRequest_legible`: stages 1 to 5.
* `publish_legible`: every answer but that of a commit.
-/

namespace FabricCapability.Ports

open FabricCapability.Verified.ByteCodec

/-! ## Legible errors -/

/-- The texts of the error hold no control character. -/
structure Error.Legible (e : Error) : Prop where
  message : Plain e.message
  detail : Plain e.detail

/-- Whatever error is returned is legible. -/
def Legible {α : Type} (x : Outcome α) : Prop := ∀ e, x = .error e → e.Legible

section Legible

variable {α β : Type}

theorem Legible.ok (a : α) : Legible (.ok a : Outcome α) := by
  intro e h
  cases h

theorem Legible.failure {code : ErrorCode} {message detail : Bytes} (hMessage : Plain message)
    (hDetail : Plain detail) : Legible (Ports.failure code message detail : Outcome α) := by
  intro e h
  obtain rfl := Except.error.inj h
  exact ⟨hMessage, hDetail⟩

theorem Legible.ite {c : Prop} [Decidable c] {x y : Outcome α} (hx : Legible x)
    (hy : Legible y) : Legible (if c then x else y) := by
  by_cases h : c
  · rwa [if_pos h]
  · rwa [if_neg h]

theorem Legible.bind {x : Outcome α} {f : α → Outcome β} (hx : Legible x)
    (hf : ∀ a, Legible (f a)) : Legible (x >>= f) := by
  intro e h
  cases x with
  | error e' =>
      obtain rfl := Except.error.inj h
      exact hx _ rfl
  | ok a => exact hf a e h

end Legible

/-! ## Names -/

theorem plain_publicationModeName (mode : PublicationMode) : Plain (publicationModeName mode) := by
  cases mode <;> decide

theorem plain_valueKindName (kind : ValueKind) : Plain (valueKindName kind) := by
  cases kind <;> decide

theorem plain_provenanceClassName (provenance : ProvenanceClass) :
    Plain (provenanceClassName provenance) := by
  cases provenance <;> decide

theorem plain_evidenceSourceClassName (source : EvidenceSourceClass) :
    Plain (evidenceSourceClassName source) := by
  cases source <;> decide

theorem plain_unitName (unit : QuantityUnit) : Plain (unitName unit) := by
  cases unit <;> decide

theorem plain_errorCodeName (code : ErrorCode) : Plain (errorCodeName code) := by
  cases code <;> decide

theorem plain_protocolName (protocol : ProtocolId) : Plain (protocolName protocol) := by
  have hNames : ∀ name ∈ protocolNames, Plain name := by decide
  unfold protocolName
  rw [List.getD_eq_getElem?_getD]
  cases hName : protocolNames[protocol.code.toNat]? with
  | none => decide
  | some name => exact hNames name (List.mem_of_getElem? hName)

theorem plain_quantityToText (value : UInt64) (unit : QuantityUnit) :
    Plain (quantityToText value unit) := by
  unfold quantityToText
  refine (plain_decimal _).append ?_
  split
  · exact plain_nil
  · exact Plain.cons (by decide) (plain_unitName unit)

/-- A number that is not negative is rendered like a natural one. -/
theorem plain_nonnegative {value : Int} (h : 0 ≤ value) : Plain (txt (toString value)) := by
  obtain ⟨n, rfl⟩ := Int.eq_ofNat_of_zero_le h
  exact plain_decimal n

/-! ## Values against their descriptors -/

theorem tupleComponentFailure_plain {d : CapabilityDescriptor} {index : Nat}
    {element : ScalarValue} {detail : Bytes}
    (h : tupleComponentFailure d index element = some detail) : Plain detail := by
  have hBound : Plain (txt "tuple component " ++ decimal index ++
      txt " exceeds the descriptor bound") :=
    (Plain.append (by decide) (plain_decimal index)).append (by decide)
  have hForm : Plain (txt "tuple component " ++ decimal index ++
      txt " has the wrong typed form") :=
    (Plain.append (by decide) (plain_decimal index)).append (by decide)
  unfold tupleComponentFailure at h
  split at h
  · cases h
  · cases h
  · cases h
  · split at h
    · rwa [← Option.some.inj h]
    · cases h
  · cases h
  · rwa [← Option.some.inj h]

theorem tupleFailure_plain {d : CapabilityDescriptor} {tuple : TupleValue} {detail : Bytes}
    (h : tupleFailure d tuple = some detail) : Plain detail := by
  unfold tupleFailure at h
  split at h
  · obtain rfl := Option.some.inj h
    exact ((Plain.append (by decide) (plain_decimal _)).append (by decide)).append
      (plain_decimal _)
  · obtain ⟨component, hMem, hDetail⟩ := List.exists_of_findSome?_eq_some h
    obtain ⟨index, hIndex, rfl⟩ := List.mem_mapIdx.1 hMem
    exact tupleComponentFailure_plain hDetail

section Values

variable {d : CapabilityDescriptor} {describe : Bytes → Bytes}

theorem checkTupleMembers_legible
    (hDescribe : ∀ detail, Plain detail → Plain (describe detail)) (tuples : List TupleValue) :
    Legible (checkTupleMembers d describe tuples) := by
  induction tuples with
  | nil => exact .ok ()
  | cons tuple rest ih =>
      unfold checkTupleMembers
      cases hTuple : tupleFailure d tuple with
      | none => exact ih
      | some detail => exact .failure (by decide) (hDescribe _ (tupleFailure_plain hTuple))

theorem validateTypedValue_legible
    (hDescribe : ∀ detail, Plain detail → Plain (describe detail)) (storage : ValueStorage) :
    Legible (validateTypedValue d describe storage) := by
  have hDecimal (n : Nat) : Plain (describe (decimal n)) := hDescribe _ (plain_decimal n)
  cases storage with
  | absent => exact .failure (by decide) (hDescribe _ (by decide))
  | boolean value => exact .ok ()
  | integer raw =>
      unfold validateTypedValue
      dsimp only
      by_cases hRange : 0 ≤ raw ∧ raw.toUInt64 > d.maximumQuantity
      · rw [if_pos hRange]
        refine .failure (by decide) (hDescribe _ (plain_nonnegative ?_))
        exact Int64.le_iff_toInt_le.1 hRange.1
      · rw [if_neg hRange]
        exact .ok ()
  | quantity q =>
      refine .ite (.failure (by decide) (hDescribe _ ?_)) ?_
      · exact ((plain_unitName _).append (by decide)).append (plain_unitName _)
      · exact .ite (.failure (by decide) (hDecimal _)) (.ok ())
  | enumeration e =>
      refine .ite (.failure (by decide) (hDescribe _ e.domain.plain)) ?_
      exact .ite (.failure (by decide) (hDecimal _)) (.ok ())
  | bitSet s => exact .ite (.failure (by decide) (hDecimal _)) (.ok ())
  | numericSet s =>
      refine .ite (.failure (by decide) (hDescribe _ (plain_unitName _))) ?_
      refine .ite (.failure (by decide) (hDecimal _)) ?_
      cases s.values.find? fun e => e < d.minimumQuantity || e > d.maximumQuantity with
      | none => exact .ok ()
      | some element => exact .failure (by decide) (hDecimal _)
  | numericRange r =>
      refine .ite (.failure (by decide) (hDescribe _ (plain_unitName _))) ?_
      refine .ite (.failure (by decide) (hDescribe _ ?_)) (.ok ())
      unfold numericRangeText
      exact (((Plain.append (by decide) (plain_quantityToText _ _)).append (by decide)).append
        (plain_quantityToText _ _)).append (by decide)
  | versionInterval v => exact .ok ()
  | protocolSet s =>
      refine .ite (.ok ()) ?_
      cases s.protocols.find? fun p => !d.allowedProtocols.contains p with
      | none => exact .ok ()
      | some protocol => exact .failure (by decide) (hDescribe _ (plain_protocolName _))
  | tuple t =>
      unfold validateTypedValue
      dsimp only
      cases hTuple : tupleFailure d t with
      | none => exact .ok ()
      | some detail => exact .failure (by decide) (hDescribe _ (tupleFailure_plain hTuple))
  | tupleSet s =>
      refine .bind (checkTupleMembers_legible hDescribe s.tuples) fun _ => ?_
      exact .ite (.failure (by decide) (hDecimal _)) (.ok ())
  | record r => exact .ok ()
  | opaquePayload p => exact .ite (.failure (by decide) (hDecimal _)) (.ok ())
  | enumSet s =>
      refine .ite (.failure (by decide) (hDescribe _ s.domain.plain)) ?_
      refine .ite (.failure (by decide) (hDecimal _)) ?_
      cases s.codes.find? fun code => !enumDomainDeclares s.domain code with
      | none => exact .ok ()
      | some code => exact .failure (by decide) (hDecimal _)

end Values

theorem validateValueAgainstDescriptor_legible (d : CapabilityDescriptor)
    (value : CapabilityValue) : Legible (validateValueAgainstDescriptor d value) := by
  unfold validateValueAgainstDescriptor
  rw [validateCanonical_eq_ok value]
  refine .ite (.failure (by decide) ?_) ?_
  · exact (((d.id.plain_toText.append (by decide)).append (plain_valueKindName _)).append
      (by decide)).append (plain_valueKindName _)
  · exact validateTypedValue_legible
      (fun detail hDetail => (d.id.plain_toText.append (by decide)).append hDetail) value.storage

/-! ## The stages of a publication -/

section Stages

variable (registry : Registry) (request : PublicationRequest)

theorem checkShape_legible : Legible (checkShape request) := by
  have hCount (text : Bytes) (n : Nat) (h : Plain text) : Plain (text ++ decimal n) :=
    h.append (plain_decimal n)
  unfold checkShape
  refine .ite (.failure (by decide) (by decide)) ?_
  refine .ite (.failure (by decide) (by decide)) ?_
  refine .ite (.failure (by decide) (by decide)) ?_
  refine .ite (.failure (by decide) (by decide)) ?_
  refine .ite (.failure (by decide) (by decide)) ?_
  refine .ite (.failure (by decide) (by decide)) ?_
  refine .ite (.failure (by decide) (by decide)) ?_
  refine .ite (.failure (by decide) (by decide)) ?_
  refine .ite (.failure (by decide) (by decide)) ?_
  refine .ite (.failure (by decide) (hCount _ _ (by decide))) ?_
  exact .ite (.failure (by decide) (hCount _ _ (by decide))) (.ok ())

theorem checkEpoch_legible : Legible (checkEpoch registry request) := by
  have hDetail : Plain (txt "request=" ++ decimal request.epoch.toNat ++ txt " current=" ++
      decimal registry.epoch.toNat) :=
    ((Plain.append (by decide) (plain_decimal _)).append (by decide)).append (plain_decimal _)
  unfold checkEpoch
  refine .ite (.failure (by decide) hDetail) ?_
  exact .ite (.failure (by decide) hDetail) (.ok ())

theorem checkPublisher_legible : Legible (checkPublisher registry request) := by
  unfold checkPublisher
  refine .ite (.failure (by decide)
    (Plain.append (by decide) request.authority.workerBoot.plain)) ?_
  cases registry.findRuntime request.publisherKey with
  | none =>
      exact .failure (by decide) (Plain.append (by decide) request.authority.publisher.plain)
  | some runtime =>
      refine .ite (.failure (by decide) plain_nil) ?_
      refine .ite (.failure (by decide) ?_) ?_
      · exact ((Plain.append (by decide) runtime.registration.scope.plain).append
          (by decide)).append request.authority.scope.plain
      · exact .ite (.failure (by decide) plain_nil) (.ok runtime)

theorem checkGrant_legible : Legible (checkGrant registry request) := by
  unfold checkGrant
  cases registry.findGrant request.authority.scope with
  | none => exact .failure (by decide) request.authority.scope.plain
  | some grant =>
      refine .ite (.failure (by decide)
        (Plain.append (by decide) (plain_publicationModeName _))) ?_
      refine .ite (.failure (by decide) (plain_entityKindName _)) ?_
      exact .ite (.failure (by decide) (plain_decimal _)) (.ok grant)

theorem find_legible (schema : CapabilitySchema) (id : CapabilityId) :
    Legible (schema.find id) := by
  unfold CapabilitySchema.find
  cases schema.lookup id with
  | none => exact .failure (by decide) id.plain_toText
  | some descriptor => exact .ok descriptor

theorem namespaceViolation_legible (ns : CapabilityNamespaceId) :
    Legible (namespaceViolation ns) :=
  .failure (by decide) ns.plain

theorem validateClaimShape_legible (descriptor : CapabilityDescriptor)
    (claim : CapabilityClaim) : Legible (validateClaimShape descriptor claim) := by
  unfold validateClaimShape
  refine .ite (.ite (.failure (by decide) ?_) (.ok ())) ?_
  · exact (descriptor.id.plain_toText.append (by decide)).append (plain_valueKindName _)
  · refine .ite (.failure (by decide) descriptor.id.plain_toText) ?_
    exact validateValueAgainstDescriptor_legible descriptor claim.value

theorem checkClaim_legible (schema : CapabilitySchema) (grant : AuthorityGrant)
    (seen : List Bytes) (claim : CapabilityClaim) :
    Legible (checkClaim schema grant seen claim) := by
  have hProvenance := plain_provenanceClassName claim.provenance
  unfold checkClaim
  refine .ite (.failure (by decide) plain_nil) ?_
  refine .ite (namespaceViolation_legible _) ?_
  refine .ite (.failure (by decide) claim.capability.plain_toText) ?_
  refine .bind (find_legible schema claim.capability) fun descriptor => ?_
  refine .ite (.failure (by decide) hProvenance) ?_
  refine .ite (.failure (by decide) (((plain_evidenceSourceClassName _).append
    (by decide)).append hProvenance)) ?_
  refine .ite (.failure (by decide) plain_nil) ?_
  refine .ite (.failure (by decide) hProvenance) ?_
  exact validateClaimShape_legible descriptor claim

theorem checkClaims_legible (schema : CapabilitySchema) (grant : AuthorityGrant)
    (seen : List Bytes) (claims : List CapabilityClaim) :
    Legible (checkClaims schema grant seen claims) := by
  induction claims generalizing seen with
  | nil => exact .ok ()
  | cons claim claims ih =>
      exact .bind (checkClaim_legible schema grant seen claim) fun _ => ih _

theorem checkEdit_legible (schema : CapabilitySchema) (grant : AuthorityGrant)
    (edit : IncrementalEdit) : Legible (checkEdit schema grant edit) := by
  have hProvenance := plain_provenanceClassName edit.effectiveClaim.provenance
  unfold checkEdit
  refine .ite (.failure (by decide) plain_nil) ?_
  refine .ite (namespaceViolation_legible _) ?_
  refine .bind (find_legible schema edit.capability) fun descriptor => ?_
  refine .ite (.ok ()) ?_
  refine .ite (.failure (by decide) hProvenance) ?_
  refine .ite (.failure (by decide) hProvenance) ?_
  exact validateClaimShape_legible descriptor edit.effectiveClaim

theorem checkEdits_legible (schema : CapabilitySchema) (grant : AuthorityGrant)
    (edits : List IncrementalEdit) : Legible (checkEdits schema grant edits) := by
  induction edits with
  | nil => exact .ok ()
  | cons edit edits ih => exact .bind (checkEdit_legible schema grant edit) fun _ => ih

/-- Stages 1 to 5. -/
theorem validateRequest_legible : Legible (validateRequest registry request) := by
  unfold validateRequest
  refine .bind (checkShape_legible request) fun _ => ?_
  refine .bind (checkEpoch_legible registry request) fun _ => ?_
  refine .bind (checkPublisher_legible registry request) fun runtime => ?_
  refine .bind (checkGrant_legible registry request) fun grant => ?_
  refine .bind (checkClaims_legible registry.schema grant [] request.claims) fun _ => ?_
  exact .bind (checkEdits_legible registry.schema grant request.edits) fun _ =>
    .ok (runtime, grant)

/-- Stage 6. -/
theorem bindGeneration_legible {entity : EntityState} {bound : Registry} {e : Error}
    (h : bindGeneration registry request entity = (bound, .error (.rejected e))) :
    e.Legible := by
  unfold bindGeneration at h
  split at h
  · obtain ⟨-, hError⟩ := Prod.mk.inj h
    obtain rfl := Refusal.rejected.inj (Except.error.inj hError)
    constructor
    · show Plain (txt "the publication targets a superseded entity generation")
      decide
    · exact ((Plain.append (by decide) (plain_decimal _)).append (by decide)).append
        (plain_decimal _)
  · split at h
    · dsimp only at h
      split at h
      · cases h
      · cases h
    · cases h

theorem bindEntity_legible {bound : Registry} {e : Error}
    (h : bindEntity registry request = (bound, .error (.rejected e))) : e.Legible := by
  unfold bindEntity at h
  split at h
  · exact bindGeneration_legible _ request h
  · split at h
    · cases h
    · exact bindGeneration_legible _ request h

/-- Stage 7. -/
theorem classifyAttempt_legible (runtime : PublisherRuntime) (contentDigest : Bytes) :
    Legible (classifyAttempt runtime request contentDigest) := by
  unfold classifyAttempt
  cases runtime.replay.getLast? with
  | none => exact .ok none
  | some latest =>
      have hAttempt : Plain (txt "attempt=" ++ request.attempt.value) :=
        Plain.append (by decide) request.attempt.plain
      refine .ite (.ite (.failure (by decide) hAttempt) (.ok _)) ?_
      exact .ite (.failure (by decide)
        ((hAttempt.append (by decide)).append latest.attempt.plain)) (.ok none)

/-- Stages 8 and 9. -/
theorem checkPreconditions_legible (entity : EntityState) :
    Legible (checkPreconditions entity request) := by
  have hExpected : Plain (txt "expected=" ++ decimal request.expectedSetGeneration.toNat) :=
    Plain.append (by decide) (plain_decimal _)
  have hVersus := (hExpected.append (b := txt " current=") (by decide)).append
    (plain_decimal entity.setGeneration.toNat)
  unfold checkPreconditions
  refine .ite (.failure (by decide) ?_) ?_
  · exact ((Plain.append (by decide) (plain_decimal _)).append (by decide)).append
      (plain_decimal _)
  · refine .ite (.ite (.failure (by decide) hVersus) ?_)
      (.ite (.failure (by decide) hExpected) (.ok ()))
    exact .ite (.failure (by decide) hVersus) (.ok ())

/-- Stage 10. -/
theorem applyToEntry_legible (claim : CapabilityClaim) (coverage : Coverage) (cell : Cell)
    (entry : CapabilityEntry) :
    Legible (applyToEntry registry request claim coverage cell entry).2 := by
  unfold applyToEntry
  dsimp only
  split
  · exact .failure (by decide) claim.capability.plain_toText
  · split
    · exact .failure (by decide) claim.capability.plain_toText
    · exact .ok ()

theorem ApplyStep.run_legible (cell : Cell) (step : ApplyStep) :
    Legible (step.run registry request cell).2 := by
  cases step with
  | supersedeOtherIdentities => exact .ok ()
  | supersedeIdentity => exact .ok ()
  | countSuperseded => exact .ok ()
  | applyClaim claim coverage =>
      show Legible (Ports.applyClaim registry request claim coverage cell).2
      unfold Ports.applyClaim
      split
      · exact applyToEntry_legible registry request claim coverage cell _
      · split
        · exact .failure (by decide) (plain_decimal _)
        · exact applyToEntry_legible registry request claim coverage cell _
  | withdrawClaim capability =>
      show Legible (withdrawIdentityClaim request capability cell).2
      unfold withdrawIdentityClaim
      split
      · exact .ok ()
      · split
        · dsimp only
          split
          · exact .failure (by decide) capability.plain_toText
          · exact .ok ()
        · exact .ok ()

theorem runSteps_legible (cell : Cell) (steps : List ApplyStep) :
    Legible (runSteps registry request cell steps).2 := by
  induction steps generalizing cell with
  | nil => exact .ok ()
  | cons step steps ih =>
      have hStep := ApplyStep.run_legible registry request cell step
      unfold runSteps
      cases hRun : step.run registry request cell with
      | mk next outcome =>
          rw [hRun] at hStep
          cases outcome with
          | error e => exact fun e' hEq => hStep e' hEq
          | ok u => exact ih next

theorem applyRequest_legible (entity : EntityState) (steps : List ApplyStep) :
    Legible (applyRequest registry request entity steps).2 := by
  have hRun := runSteps_legible registry request (registry.cell entity) steps
  unfold applyRequest
  cases hSteps : runSteps registry request (registry.cell entity) steps with
  | mk cell outcome =>
      rw [hSteps] at hRun
      cases outcome with
      | error e =>
          intro e' hEq
          exact hRun e' (congrArg Except.error (Except.error.inj hEq))
      | ok u => exact .ok cell.entity

end Stages

/-! ## The texts of a result -/

/-- The texts of the step hold no control character. -/
structure ExplanationStep.Legible (step : ExplanationStep) : Prop where
  code : Plain step.code
  summary : Plain step.summary
  fields : ∀ field ∈ step.fields, Plain field.1 ∧ Plain field.2

structure Explanation.Legible (explanation : Explanation) : Prop where
  code : Plain explanation.code
  summary : Plain explanation.summary
  steps : ∀ step ∈ explanation.steps, step.Legible

structure PublicationResult.Legible (result : PublicationResult) : Prop where
  message : Plain result.message
  entries : ∀ entry ∈ result.diff.entries, Plain entry.detail
  explanation : result.explanation.Legible

theorem makeStep_legible {code summary : Bytes} {fields : List (Bytes × Bytes)}
    (hCode : Plain code) (hSummary : Plain summary)
    (hFields : ∀ field ∈ fields, Plain field.1 ∧ Plain field.2) :
    (makeStep code summary fields).Legible :=
  ⟨hCode, hSummary, fun field hMem => hFields field (List.mem_of_mem_take hMem)⟩

/-- Texts within their bounds are legible. -/
theorem PublicationResult.Composed.legible {result : PublicationResult} (h : result.Composed) :
    result.Legible where
  message := h.message.plain
  entries entry hMem := (h.entries entry hMem).plain
  explanation :=
    { code := h.explanation.code.plain
      summary := h.explanation.summary.plain
      steps := fun step hMem =>
        { code := (h.explanation.steps step hMem).code.plain
          summary := (h.explanation.steps step hMem).summary.plain
          fields := fun field hField =>
            ⟨((h.explanation.steps step hMem).fields field hField).1.plain,
              ((h.explanation.steps step hMem).fields field hField).2.plain⟩ } }

theorem rejectionExplanation_legible {e : Error} (h : e.Legible) (request : PublicationRequest) :
    (rejectionExplanation e request).Legible where
  code := Plain.append (by decide) (plain_errorCodeName e.code)
  summary := h.message
  steps := by
    have hRequest : (makeStep (txt "publication.request") (txt "rejected publication request")
        [(txt "publication", request.publication.value),
         (txt "attempt", request.attempt.value),
         (txt "mode", publicationModeName request.mode),
         (txt "entity", request.entity.toText),
         (txt "entity_generation", decimal request.entityGeneration.toNat),
         (txt "expected_set_generation", decimal request.expectedSetGeneration.toNat),
         (txt "publisher", request.authority.publisher.value),
         (txt "worker_boot", request.authority.workerBoot.value),
         (txt "scope", request.authority.scope.value),
         (txt "claims", decimal request.claims.length),
         (txt "edits", decimal request.edits.length)]).Legible := by
      refine makeStep_legible (by decide) (by decide) ?_
      simp only [List.forall_mem_cons]
      exact ⟨⟨by decide, request.publication.plain⟩, ⟨by decide, request.attempt.plain⟩,
        ⟨by decide, plain_publicationModeName _⟩, ⟨by decide, request.entity.plain_toText⟩,
        ⟨by decide, plain_decimal _⟩, ⟨by decide, plain_decimal _⟩,
        ⟨by decide, request.authority.publisher.plain⟩,
        ⟨by decide, request.authority.workerBoot.plain⟩,
        ⟨by decide, request.authority.scope.plain⟩, ⟨by decide, plain_decimal _⟩,
        ⟨by decide, plain_decimal _⟩, by simp⟩
    intro step hMem
    unfold rejectionExplanation at hMem
    rcases List.mem_cons.1 hMem with rfl | hMem
    · exact hRequest
    · split at hMem
      · cases hMem
      · rw [List.mem_singleton.1 hMem]
        refine makeStep_legible (by decide) h.detail ?_
        have hName : Plain (txt "error_code") := by decide
        rw [List.forall_mem_singleton]
        exact ⟨hName, plain_errorCodeName e.code⟩

theorem reject_legible {registry after : Registry} {request : PublicationRequest} {e : Error}
    {result : PublicationResult} (hError : e.Legible)
    (h : reject registry request e = (after, .ok result)) : result.Legible := by
  have hResult := congrArg Prod.snd h
  obtain rfl := Except.ok.inj hResult
  exact ⟨hError.message, fun entry hMem => (by cases hMem),
    rejectionExplanation_legible hError request⟩

theorem replayResult_legible (registry : Registry) (request : PublicationRequest)
    (entity : EntityState) (latest : ReplayRecord) (digest : Digest) :
    (replayResult registry request entity latest digest.toText).Legible where
  message := by
    show Plain (txt "exact replay of an already committed attempt")
    decide
  entries entry hMem := by cases hMem
  explanation := by
    refine ⟨?_, ?_, fun step hMem => ?_⟩
    · show Plain (txt "publication.idempotent-replay")
      decide
    · show Plain (txt "the attempt was already applied; no generation advanced")
      decide
    · rw [List.mem_singleton.1 hMem]
      refine makeStep_legible (by decide) (by decide) ?_
      simp only [List.forall_mem_cons]
      exact ⟨⟨by decide, request.attempt.plain⟩, ⟨by decide, latest.publication.plain⟩,
        ⟨by decide, (fits_digest digest).plain⟩, ⟨by decide, plain_decimal _⟩, by simp⟩

/-- What `Publish` answers without a commit: a refusal with a legible error, or a replay. -/
theorem publish_uncommitted {registry after : Registry} {request : PublicationRequest}
    {result : PublicationResult} (h : publish registry request = (after, .ok result))
    (hOpen : result.status ≠ .committed) :
    (∃ registry e, Error.Legible e ∧ (reject registry request e).2 = .ok result) ∨
      ∃ registry entity latest digest,
        result = replayResult registry request entity latest (Digest.toText digest) := by
  have hExit := publish_exit registry request
  rw [h] at hExit
  generalize hOutcome : (Except.ok result : Outcome PublicationResult) = outcome at hExit
  dsimp only at hExit
  cases hExit with
  | invalid hInvalid =>
      exact .inl ⟨_, _, validateRequest_legible registry request _ hInvalid, rfl⟩
  | refused _ hRefuses =>
      exact .inl ⟨_, _, bindEntity_legible registry request hRefuses, rfl⟩
  | failed => cases hOutcome
  | conflicting _ _ hConflicts =>
      exact .inl ⟨_, _, classifyAttempt_legible request _ _ _ hConflicts, rfl⟩
  | replayed =>
      obtain rfl := Except.ok.inj hOutcome
      exact .inr ⟨_, _, _, _, rfl⟩
  | unmet _ _ hUnmet =>
      exact .inl ⟨_, _, checkPreconditions_legible request _ _ hUnmet, rfl⟩
  | @unapplied _ grant bound entity _ _ _ _ _ hFails =>
      refine .inl ⟨_, _, applyRequest_legible bound request entity
        (applySteps bound.schema grant request) _ ?_, rfl⟩
      rw [hFails]
  | uncommitted => cases hOutcome
  | committed stages =>
      obtain rfl := Except.ok.inj hOutcome
      exact absurd (commit_status stages.commits) hOpen

/-- The texts of what `Publish` answers, unless it commits. -/
theorem publish_legible {registry after : Registry} {request : PublicationRequest}
    {result : PublicationResult} (h : publish registry request = (after, .ok result))
    (hOpen : result.status ≠ .committed) : result.Legible := by
  rcases publish_uncommitted h hOpen with ⟨held, e, hError, hReject⟩ | ⟨_, _, _, _, rfl⟩
  · exact @reject_legible held (reject held request e).1 request e result hError
      (Prod.ext rfl hReject)
  · exact replayResult_legible _ request _ _ _

end FabricCapability.Ports

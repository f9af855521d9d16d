import FabricCapability.Ports.Answers
import FabricCapability.Ports.ControlWire
import FabricCapability.Ports.EntryRules
import FabricCapability.Ports.RejectionTexts

/-!
# Replies on the wire

What the client reads from the answer to a publication: every result that `Publish` returns
and the encoder accepts is read back as it was, up to the names of the capabilities in its
diff.  A name with a dot in its last part parses to another capability, or to none.

A diff leaves out the value of a resolution that has none.  That nothing is lost by this is
an invariant of the registry: a resolution is flagged as having a value exactly when it has
one (`CapabilityResolution.Flagged`).

## Main results

* `run_flagged`: the invariant, in every run.
* `replies_read_back_iff`: which replies and control messages are read back.
-/

namespace FabricCapability.Ports

open FabricCapability.Verified.ByteCodec
open FabricCapability.Verified.KeyedList
open FabricCapability.Verified.Runs
open FabricCapability.Verified.StrictOrder

/-! ## Resolutions with a value -/

/-- The flag says whether there is a value. -/
def CapabilityResolution.Flagged (resolution : CapabilityResolution) : Prop :=
  resolution.hasValue = !resolution.value.isAbsent

theorem computeResolution_flagged (entity : EntityId) (bound : EntityGeneration)
    (entry : CapabilityEntry) : (computeResolution entity bound entry).Flagged := by
  unfold computeResolution
  dsimp only
  split
  · rfl
  · rfl
  · split
    · rfl
    · rfl

/-- The resolutions that an entity holds and the ones that it shows are flagged. -/
structure EntityState.Flagged (entity : EntityState) : Prop where
  held : AllEntries (fun entry => entry.resolution.Flagged) entity
  shown : ∀ set ∈ entity.set, ∀ resolution ∈ set.capabilities, resolution.Flagged

theorem flagged_resolutions {entity : EntityState}
    (h : AllEntries (fun entry => entry.resolution.Flagged) entity) :
    ∀ resolution ∈ entity.resolutions, resolution.Flagged := by
  intro resolution hMem
  obtain ⟨entry, hEntry, rfl⟩ := List.mem_map.1 (mem_sortBy.1 hMem)
  exact h entry hEntry

theorem flagged_entries_rule :
    EntityRule fun a b => AllEntries (fun entry => entry.resolution.Flagged) a →
      AllEntries (fun entry => entry.resolution.Flagged) b :=
  allEntries_rule (fun _ => rfl) fun _ _ _ _ _ _ _ _ => computeResolution_flagged ..

theorem applies_flagged_entries (registry : Registry) (request : PublicationRequest) :
    AppliesWithin (fun a b => AllEntries (fun entry => entry.resolution.Flagged) a →
      AllEntries (fun entry => entry.resolution.Flagged) b) registry request := by
  refine allEntries_applies (fun _ => rfl) ?_ registry request
  intro registry request cell step ok entry later hChange hEntry
  cases hChange with
  | superseded => exact computeResolution_flagged ..
  | withdrawn => exact computeResolution_flagged ..
  | applied => exact computeResolution_flagged ..
  | unwithdrawn => exact hEntry
  | trimmed => exact hEntry
  | unapplied => exact hEntry

theorem EntityState.Flagged.of_set {entity : EntityState}
    (hHeld : AllEntries (fun entry => entry.resolution.Flagged) entity)
    (hShown : ∀ set ∈ entity.set, set.capabilities = entity.resolutions) : entity.Flagged where
  held := hHeld
  shown set hSet resolution hMem := by
    rw [hShown set hSet] at hMem
    exact flagged_resolutions hHeld resolution hMem

theorem flagged_rule : EntityRule fun a b => a.Flagged → b.Flagged where
  refl _ := id
  trans _ _ _ hab hbc := hbc ∘ hab
  retired _ _ _ _ _ _ _ _ := ⟨fun _ hMem => (by cases hMem), fun _ hSet => (by cases hSet)⟩
  exhausted _ _ _ h := ⟨h.held, h.shown⟩
  committed registry advanced entity next request hAdvance h := by
    refine .of_set (flagged_entries_rule.committed registry advanced entity next request hAdvance
      h.held) fun set hSet => ?_
    rw [← Option.some.inj hSet]
    rfl
  observed _ _ _ _ h := ⟨h.held, h.shown⟩
  relabelled matching currentness reason indexes entity h :=
    ⟨flagged_entries_rule.relabelled matching currentness reason indexes entity h.held, h.shown⟩
  flagged _ _ h := ⟨h.held, h.shown⟩
  refreshed registryGeneration entity touchedAt h := by
    refine .of_set h.held fun set hSet => ?_
    rw [← Option.some.inj hSet]
    rfl

theorem applies_flagged (registry : Registry) (request : PublicationRequest) :
    AppliesWithin (fun a b => a.Flagged → b.Flagged) registry request := by
  intro runtime grant bound entity hValid hBind hChecked h
  have hSame : SameEntity (bound.cell entity).entity _ := runSteps_entity bound request
    (applySteps bound.schema grant request) (bound.cell entity)
  refine ⟨applies_flagged_entries registry request runtime grant bound entity hValid hBind hChecked
    h.held, ?_⟩
  rw [hSame.set_eq]
  exact h.shown

theorem loadEntity_flagged (registryGeneration : RegistryGeneration) (loading : Loading)
    (stored : StoredEntity) : (loadEntity registryGeneration loading stored).2.Flagged := by
  refine .of_set (fun entry hMem => ?_) fun set hSet => ?_
  · obtain ⟨indexes, held, -, rfl⟩ := mem_mapAccum hMem
    exact computeResolution_flagged ..
  · rw [← Option.some.inj hSet]
    rfl

def Registry.Flagged (registry : Registry) : Prop :=
  ∀ entity ∈ registry.entities, entity.Flagged

theorem newEntity_flagged (registryGeneration : RegistryGeneration) (id : EntityId)
    (generation : EntityGeneration) : (newEntity registryGeneration id generation).Flagged :=
  ⟨fun _ hMem => (by cases hMem), fun _ hSet => (by cases hSet)⟩

theorem step_flagged {registry : Registry} (operation : Operation) (h : registry.Flagged) :
    (operation.apply registry).Flagged := by
  cases hLoad : operation.isLoad with
  | false =>
      exact (step_follows flagged_rule (fun attempt _ => applies_flagged _ _) hLoad).invariant
        (fun _ _ _ _ => newEntity_flagged ..) h
  | true =>
      cases operation with
      | load config file =>
          show (load registry config file).1.Flagged
          unfold load
          split
          · exact h
          · intro entity hMem
            obtain ⟨loading, stored, -, rfl⟩ := mem_mapAccum hMem
            exact loadEntity_flagged ..
      | _ => cases hLoad

theorem run_flagged (options : Options) (operations : List Operation) :
    (afterRun options operations).Flagged := by
  refine run_invariant (fun _ operation _ => step_flagged operation)
    (guarded_of_forall fun _ _ => trivial) ?_
  intro entity hMem
  rw [init_entities] at hMem
  cases hMem

/-! ## Diffs of flagged sets -/

/-- A value that is not written is absent. -/
def CapabilityDiffEntry.Flagged (entry : CapabilityDiffEntry) : Prop :=
  (entry.hasBeforeValue = false → entry.beforeValue = .absent) ∧
    (entry.hasAfterValue = false → entry.afterValue = .absent)

theorem CapabilityResolution.Flagged.absent {resolution : CapabilityResolution}
    (h : resolution.Flagged) (hNone : resolution.hasValue = false) :
    resolution.value = .absent := by
  unfold Flagged at h
  rw [hNone] at h
  exact isAbsent_eq_true (by simpa using h.symm)

theorem find_mem {set : EntityCapabilitySet} {capability : CapabilityId}
    {resolution : CapabilityResolution} (h : set.find capability = some resolution) :
    resolution ∈ set.capabilities := by
  unfold EntityCapabilitySet.find at h
  split at h
  · rename_i found hFound
    split at h
    · rw [← Option.some.inj h]
      exact List.mem_of_find?_eq_some hFound
    · cases h
  · cases h

theorem compareResolutions_flagged {capability : CapabilityId} {lhs rhs : CapabilityResolution}
    (hLhs : lhs.Flagged) (hRhs : rhs.Flagged) {entry : CapabilityDiffEntry}
    (h : entry ∈ compareResolutions capability lhs rhs) : entry.Flagged := by
  have hBoth : ∀ entry : CapabilityDiffEntry, entry.hasBeforeValue = lhs.hasValue →
      entry.beforeValue = lhs.value → entry.hasAfterValue = rhs.hasValue →
      entry.afterValue = rhs.value → entry.Flagged := by
    intro entry hHasBefore hBefore hHasAfter hAfter
    constructor
    · intro hNone
      rw [hBefore]
      exact hLhs.absent (hHasBefore ▸ hNone)
    · intro hNone
      rw [hAfter]
      exact hRhs.absent (hHasAfter ▸ hNone)
  unfold compareResolutions at h
  dsimp only at h
  split at h
  · rw [List.mem_singleton.1 h]
    exact hBoth _ rfl rfl rfl rfl
  split at h
  · rw [List.mem_singleton.1 h]
    exact hBoth _ rfl rfl rfl rfl
  split at h
  · rw [List.mem_singleton.1 h]
    exact hBoth _ rfl rfl rfl rfl
  split at h
  · rw [List.mem_singleton.1 h]
    exact hBoth _ rfl rfl rfl rfl
  split at h
  · rw [List.mem_singleton.1 h]
    exact hBoth _ rfl rfl rfl rfl
  split at h
  · rw [List.mem_singleton.1 h]
    exact hBoth _ rfl rfl rfl rfl
  · cases h

theorem buildDiff_flagged {id : EntityId} {before after : Option EntityCapabilitySet}
    (hBefore : ∀ set ∈ before, ∀ resolution ∈ set.capabilities, resolution.Flagged)
    (hAfter : ∀ set ∈ after, ∀ resolution ∈ set.capabilities, resolution.Flagged)
    {entry : CapabilityDiffEntry} (h : entry ∈ (buildDiff id before after).entries) :
    entry.Flagged := by
  have hFound : ∀ {set : Option EntityCapabilitySet} {capability resolution},
      (∀ held ∈ set, ∀ resolution ∈ held.capabilities, resolution.Flagged) →
      set.bind (·.find capability) = some resolution → resolution.Flagged := by
    intro set capability resolution hSet hFind
    obtain ⟨held, hHeld, hFind⟩ := Option.bind_eq_some_iff.1 hFind
    exact hSet held hHeld resolution (find_mem hFind)
  unfold buildDiff at h
  rcases List.mem_append.1 (mem_sortBy.1 h) with h | h
  · split at h
    · unfold diffEntity at h
      rcases List.mem_append.1 h with h | h
      · split at h
        · rw [List.mem_singleton.1 h]
          exact ⟨fun _ => rfl, fun _ => rfl⟩
        · cases h
      · split at h
        · rw [List.mem_singleton.1 h]
          exact ⟨fun _ => rfl, fun _ => rfl⟩
        · cases h
    · cases h
  · obtain ⟨capability, -, h⟩ := List.mem_flatMap.1 h
    unfold diffCapability at h
    split at h
    · rename_i rhs _ hRhs
      rw [List.mem_singleton.1 h]
      exact ⟨fun _ => rfl, fun hNone => (hFound hAfter hRhs).absent hNone⟩
    · rename_i lhs hLhs _
      rw [List.mem_singleton.1 h]
      exact ⟨fun hNone => (hFound hBefore hLhs).absent hNone, fun _ => rfl⟩
    · cases h
    · rename_i lhs rhs hLhs hRhs
      exact compareResolutions_flagged (hFound hBefore hLhs) (hFound hAfter hRhs) h

/-- The diff of a commit is one of flagged sets. -/
theorem Committed.entries_flagged {registry after : Registry} {request : PublicationRequest}
    {result : PublicationResult} (c : Committed registry request after result)
    (h : registry.Flagged) : ∀ entry ∈ result.diff.entries, entry.Flagged := by
  have hBound : c.bound.Flagged := by
    have hFollows := bindEntity_follows (flagged_rule.stages registry.options)
      (checkShape_ok (validateRequest_ok c.valid).shape).1
    rw [c.binds] at hFollows
    exact hFollows.invariant (fun _ _ _ _ => newEntity_flagged ..) h
  have hEntity : c.entity.Flagged :=
    hBound c.entity (lookup_mem (bindEntity_ok c.binds).2.2.1)
  have hPublished : c.published.Flagged := by
    rw [c.published_eq]
    exact applies_flagged registry request c.runtime c.grant c.bound c.entity c.valid c.binds
      c.checked hEntity
  intro entry hMem
  rw [c.entries_eq] at hMem
  refine buildDiff_flagged hEntity.shown (fun set hSet => ?_) hMem
  rw [← Option.some.inj hSet]
  exact flagged_resolutions hPublished.held

/-! ## Bounds of what was encoded -/

theorem fits_of_written {text out : Bytes} {maxLength : Nat} (hPlain : Plain text)
    (h : writeText text maxLength = .ok out) : Fits maxLength text :=
  ⟨hPlain, (writeText_inv h).1⟩

theorem diffEntry_composed_of_written {entry : CapabilityDiffEntry} {out : Bytes}
    (hPlain : Plain entry.detail) (h : writeDiffEntry entry = .ok out) : entry.Composed := by
  obtain ⟨_, hDetail, -⟩ :=
    @emit_mem _ (writeText entry.detail (kMaxTextLength * 4)) _ _ h (by simp)
  exact fits_of_written hPlain hDetail

theorem step_composed_of_written {step : ExplanationStep} {out : Bytes} (hStep : step.Legible)
    (h : writeStep step = .ok out) : step.Composed := by
  obtain ⟨_, hCode, -⟩ := @emit_mem _ (writeText step.code (kMaxTextLength * 2)) _ _ h (by simp)
  obtain ⟨_, hSummary, -⟩ :=
    @emit_mem _ (writeText step.summary (kMaxTextLength * 4)) _ _ h (by simp)
  obtain ⟨_, hCount, -⟩ := @emit_mem _ (checkCount step.fields.length
    kMaxTextFieldsPerExplanation (txt "explanation step has too many fields")) _ _ h (by simp)
  obtain ⟨_, hFields, -⟩ := @emit_mem _ (emit (step.fields.map writeField)) _ _ h (by simp)
  refine ⟨fits_of_written hStep.code hCode, fits_of_written hStep.summary hSummary,
    (checkCount_eq_ok hCount).2, fun field hMem => ?_⟩
  obtain ⟨_, hField, -⟩ := emit_mem hFields (List.mem_map_of_mem hMem)
  obtain ⟨_, hName, -⟩ := @emit_mem _ (writeText field.1 kMaxTextLength) _ _ hField (by simp)
  obtain ⟨_, hValue, -⟩ :=
    @emit_mem _ (writeText field.2 (kMaxTextLength * 4)) _ _ hField (by simp)
  exact ⟨fits_of_written (hStep.fields field hMem).1 hName,
    fits_of_written (hStep.fields field hMem).2 hValue⟩

theorem explanation_composed_of_written {explanation : Explanation} {out : Bytes}
    (hExplanation : explanation.Legible) (h : writeExplanation explanation = .ok out) :
    explanation.Composed := by
  obtain ⟨_, hCode, -⟩ :=
    @emit_mem _ (writeText explanation.code (kMaxTextLength * 2)) _ _ h (by simp)
  obtain ⟨_, hSummary, -⟩ :=
    @emit_mem _ (writeText explanation.summary (kMaxTextLength * 4)) _ _ h (by simp)
  obtain ⟨_, hCount, -⟩ := @emit_mem _ (checkCount explanation.steps.length
    kMaxWireExplanationSteps (txt "explanation has too many steps")) _ _ h (by simp)
  obtain ⟨_, hSteps, -⟩ := @emit_mem _ (emit (explanation.steps.map writeStep)) _ _ h (by simp)
  refine ⟨fits_of_written hExplanation.code hCode, fits_of_written hExplanation.summary hSummary,
    (checkCount_eq_ok hCount).2, fun step hMem => ?_⟩
  obtain ⟨_, hStep, -⟩ := emit_mem hSteps (List.mem_map_of_mem hMem)
  exact step_composed_of_written (hExplanation.steps step hMem) hStep

/-- What was encoded is within the bounds of the encoder. -/
theorem composed_of_encoded {result : PublicationResult} {payload : Bytes}
    (hLegible : result.Legible) (h : encodePublicationResult result = .ok payload) :
    result.Composed := by
  obtain ⟨_, hMessage, -⟩ :=
    @emit_mem _ (writeText result.message (kMaxTextLength * 4)) _ _ h (by simp)
  obtain ⟨_, hDiff, -⟩ := @emit_mem _ (writeDiff result.diff) _ _ h (by simp)
  obtain ⟨_, hExplanation, -⟩ := @emit_mem _ (writeExplanation result.explanation) _ _ h (by simp)
  obtain ⟨_, hEntries, -⟩ :=
    @emit_mem _ (emit (result.diff.entries.map writeDiffEntry)) _ _ hDiff (by simp)
  refine ⟨fits_of_written hLegible.message hMessage, fun entry hMem => ?_,
    explanation_composed_of_written hLegible.explanation hExplanation⟩
  obtain ⟨_, hEntry, -⟩ := emit_mem hEntries (List.mem_map_of_mem hMem)
  exact diffEntry_composed_of_written (hLegible.entries entry hMem) hEntry

/-! ## Results that are read back -/

/-- The counters of the result fit their fields. -/
def PublicationResult.Counted (result : PublicationResult) : Prop :=
  result.claimsApplied < 2 ^ 64 ∧ result.claimsWithdrawn < 2 ^ 64 ∧
    result.capabilitiesAdded < 2 ^ 64 ∧ result.capabilitiesRemoved < 2 ^ 64 ∧
    result.capabilitiesChanged < 2 ^ 64

/-- The values of the diff survive the value codec. -/
def PublicationResult.ValuesDecodable (result : PublicationResult) : Prop :=
  ∀ entry ∈ result.diff.entries,
    (entry.hasBeforeValue = true → entry.beforeValue.decodable = true) ∧
      (entry.hasAfterValue = true → entry.afterValue.decodable = true)

theorem rereadSize_eq {n : Nat} (h : n < 2 ^ 64) : rereadSize n = n := by
  rw [rereadSize, UInt64.toNat_ofNat', Nat.mod_eq_of_lt h]

theorem eq_unset_of_not_isSet {id : CapabilityId} (h : id.isSet = false) : id = .unset := by
  obtain ⟨ns, localName, hValid⟩ := id
  rcases hValid with ⟨hNs, rfl⟩ | hValid
  · obtain rfl : ns = .unset := CapabilityNamespaceId.ext hNs
    rfl
  · have hSet := (validateCapabilityParts_inv hValid).1
    have hUnset : ns.isSet = false := h
    rw [hSet] at hUnset
    cases hUnset

/-- An unset capability is read back, a set one when its text parses to it. -/
theorem rereadCapability_eq_some {id : CapabilityId} :
    rereadCapability id = some id ↔ (id.isSet = true → id.Reparses) := by
  unfold rereadCapability CapabilityId.Reparses
  cases hSet : id.isSet with
  | false =>
      rw [eq_unset_of_not_isSet hSet]
      exact iff_of_true rfl (fun h => by cases h)
  | true =>
      have hNs : id.ns.isSet = true := hSet
      have hText : id.toText.isEmpty = false := by
        rw [CapabilityId.toText, if_pos hNs]
        simp
      rw [hText]
      cases hParse : CapabilityId.parse id.toText with
      | error e => simp [Except.toOption]
      | ok parsed => simp [Except.toOption]

theorem CapabilityDiffEntry.reread_eq_some {entry : CapabilityDiffEntry} (h : entry.Flagged)
    (hBefore : entry.hasBeforeValue = true → entry.beforeValue.decodable = true)
    (hAfter : entry.hasAfterValue = true → entry.afterValue.decodable = true) :
    entry.reread = some entry ↔ (entry.capability.isSet = true → entry.capability.Reparses) := by
  have hValues : ((!entry.hasBeforeValue || entry.beforeValue.decodable) &&
      (!entry.hasAfterValue || entry.afterValue.decodable)) = true := by
    cases hHasBefore : entry.hasBeforeValue <;> cases hHasAfter : entry.hasAfterValue <;> simp_all
  have hBeforeValue : (if entry.hasBeforeValue then entry.beforeValue else .absent) =
      entry.beforeValue := by
    cases hHas : entry.hasBeforeValue with
    | true => rfl
    | false => exact (h.1 hHas).symm
  have hAfterValue : (if entry.hasAfterValue then entry.afterValue else .absent) =
      entry.afterValue := by
    cases hHas : entry.hasAfterValue with
    | true => rfl
    | false => exact (h.2 hHas).symm
  rw [← rereadCapability_eq_some, reread, hBeforeValue, hAfterValue]
  cases rereadCapability entry.capability with
  | none => simp
  | some capability =>
      rw [Option.bind_some, if_pos hValues, Option.some.injEq, Option.some.injEq]
      constructor
      · intro hEq
        exact congrArg CapabilityDiffEntry.capability hEq
      · rintro rfl
        rfl

theorem mapM_eq_self {α : Type} {f : α → Option α} {xs : List α} :
    xs.mapM f = some xs ↔ ∀ x ∈ xs, f x = some x := by
  induction xs with
  | nil => simp
  | cons x xs ih =>
      rw [List.mapM_cons, List.forall_mem_cons, ← ih]
      cases f x with
      | none => simp
      | some y =>
          cases xs.mapM f with
          | none => simp
          | some ys => simp

/-- A result is read back exactly when the names in its diff are. -/
theorem decodePublicationResult_encode {result : PublicationResult} {payload : Bytes}
    (hComposed : result.Composed) (hCounted : result.Counted)
    (hFlagged : ∀ entry ∈ result.diff.entries, entry.Flagged)
    (hValues : result.ValuesDecodable) (h : encodePublicationResult result = .ok payload) :
    decodePublicationResult payload = .ok result ↔
      ∀ entry ∈ result.diff.entries,
        entry.capability.isSet = true → entry.capability.Reparses := by
  have hEntries : result.diff.entries.mapM CapabilityDiffEntry.reread =
      some result.diff.entries ↔ ∀ entry ∈ result.diff.entries,
        entry.capability.isSet = true → entry.capability.Reparses := by
    rw [mapM_eq_self]
    refine forall₂_congr fun entry hMem => ?_
    exact CapabilityDiffEntry.reread_eq_some (hFlagged entry hMem) (hValues entry hMem).1
      (hValues entry hMem).2
  obtain ⟨hApplied, hWithdrawn, hAdded, hRemoved, hChanged⟩ := hCounted
  unfold decodePublicationResult
  rw [readWhole_eq_ok (readsBack_result hComposed payload h), ← hEntries,
    rereadSize_eq hApplied, rereadSize_eq hWithdrawn, rereadSize_eq hAdded,
    rereadSize_eq hRemoved, rereadSize_eq hChanged]
  cases result.diff.entries.mapM CapabilityDiffEntry.reread with
  | none => simp
  | some entries =>
      rw [Option.bind_some, Option.some.injEq, Option.some.injEq]
      constructor
      · intro hEq
        exact congrArg (fun result => result.diff.entries) hEq
      · rintro rfl
        rfl

/-! ## Replies of a run -/

section Answered

variable {options : Options} {operations : List Operation} {request : PublicationRequest}
  {after : Registry} {result : PublicationResult}

/-- The texts, the counters and the diff of what `Publish` answers. -/
theorem publish_answered {payload : Bytes}
    (h : publish (afterRun options operations) request = (after, .ok result))
    (hEncode : encodePublicationResult result = .ok payload) :
    result.Composed ∧ result.Counted ∧ ∀ entry ∈ result.diff.entries, entry.Flagged := by
  by_cases hCommitted : result.status = .committed
  · obtain ⟨c⟩ := publish_committed h hCommitted
    have hSchema := run_counted options operations
    have hSteps := c.counts hSchema
    have hEntries := count_of_encoded hEncode
    refine ⟨c.composed hSchema, ?_, c.entries_flagged (run_flagged options operations)⟩
    have hFew : result.diff.entries.length < 2 ^ 64 := hEntries.trans_lt (by decide)
    obtain ⟨advanced, next, -, hResult⟩ := c.result_eq
    have hApplied := congrArg PublicationResult.claimsApplied hResult
    have hWithdrawn := congrArg PublicationResult.claimsWithdrawn hResult
    have hAdded : result.capabilitiesAdded =
        result.diff.entries.countP fun entry => entry.kind == .capabilityAdded := by
      rw [hResult]
      rfl
    have hRemoved : result.capabilitiesRemoved =
        result.diff.entries.countP fun entry => entry.kind == .capabilityRemoved := by
      rw [hResult]
      rfl
    have hChanged : result.capabilitiesChanged = result.diff.entries.countP fun entry =>
        entry.kind != .capabilityAdded && entry.kind != .capabilityRemoved := by
      rw [hResult]
      rfl
    refine ⟨?_, ?_, ?_, ?_, ?_⟩
    · rw [hApplied]
      exact List.countP_le_length.trans_lt hSteps
    · rw [hWithdrawn]
      exact List.countP_le_length.trans_lt hSteps
    · rw [hAdded]
      exact List.countP_le_length.trans_lt hFew
    · rw [hRemoved]
      exact List.countP_le_length.trans_lt hFew
    · rw [hChanged]
      exact List.countP_le_length.trans_lt hFew
  · refine ⟨composed_of_encoded (publish_legible h hCommitted) hEncode, ?_⟩
    have hZero : (0 : Nat) < 2 ^ 64 := by decide
    rcases publish_uncommitted h hCommitted with ⟨_, e, -, hReject⟩ | ⟨_, _, _, _, rfl⟩
    · obtain rfl := Except.ok.inj hReject
      exact ⟨⟨hZero, hZero, hZero, hZero, hZero⟩, fun entry hMem => by cases hMem⟩
    · exact ⟨⟨hZero, hZero, hZero, hZero, hZero⟩, fun entry hMem => by cases hMem⟩

end Answered

/--
**Replies and control messages**: a reply is read back exactly when the capabilities that its
diff names parse back from their names; `Hello`, `Status` and `Fence` are read back when
their required identifiers are set; `HelloAck` and `Error` exactly when their text holds no
control character.
-/
theorem replies_read_back_iff (options : Options) (operations : List Operation)
    (request : PublicationRequest) :
    (∀ (after : Registry) (result : PublicationResult) (payload : Bytes),
      publish (afterRun options operations) request = (after, .ok result) →
      encodePublicationResult result = .ok payload → result.ValuesDecodable →
      (decodePublicationResult payload = .ok result ↔ ∀ entry ∈ result.diff.entries,
        entry.capability.isSet = true → entry.capability.Reparses)) ∧
    (∀ (hello : HelloPayload) (payload : Bytes), encodeHello hello = .ok payload →
      hello.identified = true → decodeHello payload = .ok hello) ∧
    (∀ (ack : HelloAckPayload) (payload : Bytes), encodeHelloAck ack = .ok payload →
      (decodeHelloAck payload = .ok ack ↔ Plain ack.message)) ∧
    (∀ (status : StatusPayload) (payload : Bytes), encodeStatus status = .ok payload →
      decodeStatus payload = .ok status) ∧
    (∀ (fence : FencePayload) (payload : Bytes), encodeFence fence = .ok payload →
      fence.workerBoot.isSet = true → decodeFence payload = .ok fence) ∧
    ∀ (error : ErrorPayload) (payload : Bytes), encodeErrorPayload error = .ok payload →
      (decodeErrorPayload payload = .ok error ↔ Plain error.message) := by
  refine ⟨?_, ?_, ?_, ?_, ?_, ?_⟩
  · intro after result payload hPublish hEncode hValues
    obtain ⟨hComposed, hCounted, hFlagged⟩ := publish_answered hPublish hEncode
    exact decodePublicationResult_encode hComposed hCounted hFlagged hValues hEncode
  · intro hello payload hEncode hIdentified
    exact (decodeHello_encode hEncode).2 hIdentified
  · intro ack payload hEncode
    exact decodeHelloAck_encode hEncode
  · intro status payload hEncode
    exact decodeStatus_encode hEncode
  · intro fence payload hEncode hSet
    exact (decodeFence_encode hEncode).2 hSet
  · intro error payload hEncode
    exact decodeErrorPayload_encode hEncode

/-- Whether a reply is encoded, its values are decodable and its names parse back. -/
def replyChecks (registry : Registry) (request : PublicationRequest) : Option (Bool × Bool × Bool) :=
  (publish registry request).2.toOption.map fun result =>
    ((encodePublicationResult result).isOk,
      result.diff.entries.all fun entry =>
        (!entry.hasBeforeValue || entry.beforeValue.decodable) &&
          (!entry.hasAfterValue || entry.afterValue.decodable),
      result.diff.entries.all fun entry =>
        rereadCapability entry.capability == some entry.capability)

theorem first_claim_reply_read_back :
    ∃ after result payload, publish (afterRun {} Sample.setup) Sample.soleClaim =
        (after, .ok result) ∧ encodePublicationResult result = .ok payload ∧
      decodePublicationResult payload = .ok result := by
  have hChecks : replyChecks (afterRun {} Sample.setup) Sample.soleClaim =
      some (true, true, true) := by decide +kernel
  unfold replyChecks at hChecks
  cases hPublish : publish (afterRun {} Sample.setup) Sample.soleClaim with
  | mk after outcome =>
      rw [hPublish] at hChecks
      cases outcome with
      | error e => cases hChecks
      | ok result =>
          obtain ⟨hEncoded, hRest⟩ := Prod.mk.inj (Option.some.inj hChecks)
          obtain ⟨hValues, hNames⟩ := Prod.mk.inj hRest
          obtain ⟨payload, hEncode⟩ : ∃ payload, encodePublicationResult result = .ok payload := by
            cases hEq : encodePublicationResult result with
            | error e =>
                rw [hEq] at hEncoded
                cases hEncoded
            | ok payload => exact ⟨payload, rfl⟩
          refine ⟨after, result, payload, rfl, hEncode, ?_⟩
          refine ((replies_read_back_iff {} Sample.setup Sample.soleClaim).1 after result payload
            hPublish hEncode fun entry hMem => ?_).2 fun entry hMem hSet => ?_
          · have hEntry := List.all_eq_true.1 hValues entry hMem
            simp only [Bool.and_eq_true, Bool.or_eq_true, Bool.not_eq_true'] at hEntry
            constructor
            · intro hHas
              simpa [hHas] using hEntry.1
            · intro hHas
              simpa [hHas] using hEntry.2
          · have hEntry := List.all_eq_true.1 hNames entry hMem
            exact rereadCapability_eq_some.1 (by simpa using hEntry) hSet

/-- An acknowledgement of two lines is encoded and not decoded. -/
theorem two_line_ack_not_read_back :
    ¬∀ (ack : HelloAckPayload) (payload : Bytes), encodeHelloAck ack = .ok payload →
      decodeHelloAck payload = .ok ack := by
  intro h
  have hEncode : encodeHelloAck { message := txt "a\nb" } =
      .ok (orNothing (encodeHelloAck { message := txt "a\nb" })) := by decide
  have hPlain := (decodeHelloAck_encode hEncode).1 (h _ _ hEncode)
  exact absurd hPlain (by decide)

end FabricCapability.Ports

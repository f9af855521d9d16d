import FabricCapability.Ports.OptimisticLocking

/-!
# What a set generation identifies

A publication that changes the digest of the capability set advances the set generation.
Fencing a boot, advancing the epoch and invalidating demote evidence and publish the set
again under the generation that it has: the generation counts committed publications, and
a publisher goes on with it after a fence.

So a set generation identifies one digest as long as none of these operations changes the
set of the entity.

## Main results

* `set_generation_identifies_digest`: runs in which they do not.
* `fence_changes_digest`: a fence that does.
-/

namespace FabricCapability.Ports

open FabricCapability.Verified.Runs

/-- The digest of the set that the entity has published, when there is one. -/
def EntityState.publishedDigest (entity : EntityState) : Option Digest :=
  entity.set.map EntityCapabilitySet.digest

/-- The set generation does not fall, and while it stays the digest stays. -/
def SameContent (a b : EntityState) : Prop :=
  a.setGeneration ≤ b.setGeneration ∧
    (a.setGeneration = b.setGeneration → a.publishedDigest = b.publishedDigest)

theorem sameContent_refl (entity : EntityState) : SameContent entity entity :=
  ⟨UInt64.le_refl _, fun _ => rfl⟩

theorem sameContent_trans (a b c : EntityState) (hab : SameContent a b)
    (hbc : SameContent b c) : SameContent a c := by
  refine ⟨UInt64.le_trans hab.1 hbc.1, fun hSame => ?_⟩
  have hMiddle : a.setGeneration = b.setGeneration :=
    UInt64.le_antisymm hab.1 (hSame ▸ hbc.1)
  exact (hab.2 hMiddle).trans (hbc.2 (hMiddle.symm.trans hSame))

/-- A later set generation. -/
theorem sameContent_of_advance {a b : EntityState}
    (h : b.setGeneration.toNat = a.setGeneration.toNat + 1) : SameContent a b := by
  constructor
  · rw [UInt64.le_iff_toNat_le]
    omega
  · intro hSame
    rw [hSame] at h
    omega

/-- A commit that changes the digest advances the generation, and one that does not keeps
both. -/
theorem sameContent_committed (registry advanced : Registry) (entity next : EntityState)
    (request : PublicationRequest)
    (hAdvance : advanceGenerations registry entity (semanticChange entity.set entity) =
      (advanced, .ok next)) :
    SameContent entity (committedEntity advanced.registryGeneration next request) := by
  obtain ⟨-, hNext, hSet, -⟩ := advanceGenerations_ok hAdvance
  by_cases hChange : semanticChange entity.set entity = true
  · rw [if_pos hChange] at hSet
    exact sameContent_of_advance hSet
  · rw [if_neg hChange] at hSet
    have hSame : next.setGeneration = entity.setGeneration := UInt64.toNat_inj.1 hSet
    refine ⟨UInt64.le_of_eq hSame.symm, fun _ => ?_⟩
    have hResolutions : next.resolutions = entity.resolutions := by
      rw [hNext]
      rfl
    rw [semanticChange_eq, not_not] at hChange
    rw [EntityState.publishedDigest, EntityState.publishedDigest, committedEntity_digest, hResolutions]
    exact hChange

theorem sameContent_rule : PublishRule (WhileGeneration SameContent) :=
  PublishRule.whileGeneration sameContent_refl sameContent_trans
    (fun _ _ hNext => sameContent_of_advance (toNat_of_counterNext hNext))
    sameContent_committed

/-- Stage 10 touches neither the set nor its generation. -/
theorem applies_sameContent (registry : Registry) (request : PublicationRequest) :
    AppliesWithin (WhileGeneration SameContent) registry request := by
  intro runtime grant bound entity _ _ _
  have hSame := runSteps_entity bound request (applySteps bound.schema grant request)
    (bound.cell entity)
  refine .inr ⟨hSame.currentGeneration_eq.symm, ?_, fun _ => ?_⟩
  · exact UInt64.le_of_eq hSame.setGeneration_eq.symm
  · rw [EntityState.publishedDigest, EntityState.publishedDigest, hSame.set_eq]
    rfl

/-! ## Runs -/

/-- The digest of the set of an entity; none when it has no set. -/
def Registry.setDigest (registry : Registry) (id : EntityId) : Option Digest :=
  (registry.findEntity id).bind EntityState.publishedDigest

/-- The step is no load, and if it fences, advances the epoch or invalidates, then it keeps
the digest of the set of the entity. -/
def KeepsDigest (id : EntityId) (registry : Registry) (operation : Operation) : Prop :=
  NoLoad registry operation ∧ (operation.refreshes = true →
    (operation.apply registry).setDigest id = registry.setDigest id)

instance (id : EntityId) (registry : Registry) (operation : Operation) :
    Decidable (KeepsDigest id registry operation) :=
  inferInstanceAs (Decidable (_ ∧ (_ → _)))

/-- The entity that was held is held later, at the same content while its generations stay. -/
def ContentLasts (id : EntityId) (a b : Registry) : Prop :=
  ∀ held, a.findEntity id = some held → ∃ later, b.findEntity id = some later ∧
    WhileGeneration SameContent held later

section Runs

variable {id : EntityId}

theorem contentLasts_refl (registry : Registry) : ContentLasts id registry registry :=
  fun held hFound => ⟨held, hFound, sameContent_rule.refl held⟩

theorem contentLasts_trans (a b c : Registry) (hab : ContentLasts id a b)
    (hbc : ContentLasts id b c) : ContentLasts id a c := by
  intro held hFound
  obtain ⟨mid, hMid, hFirst⟩ := hab held hFound
  obtain ⟨later, hLater, hSecond⟩ := hbc mid hMid
  exact ⟨later, hLater, sameContent_rule.trans _ _ _ hFirst hSecond⟩

theorem step_contentLasts {registry : Registry} {operation : Operation}
    (h : KeepsDigest id registry operation) :
    ContentLasts id registry (operation.apply registry) := by
  intro held hFound
  by_cases hCalm : operation.refreshes = true
  · obtain ⟨later, hLater, hEvolves⟩ := (evolves_step h.1).find id held hFound
    refine ⟨later, hLater, ?_⟩
    rcases hEvolves with hAbove | ⟨hSame, hSet, -⟩
    · exact .inl (UInt64.lt_iff_toNat_lt.2 hAbove)
    · refine .inr ⟨hSame, UInt64.le_iff_toNat_le.2 hSet, fun _ => ?_⟩
      have hDigest := h.2 hCalm
      rw [Registry.setDigest, Registry.setDigest, hFound, hLater] at hDigest
      exact hDigest.symm
  · have hFollows := calmStep_follows sameContent_rule
      (fun _ _ hUnset hNe => .inl (hUnset ▸ UInt64.pos_iff_ne_zero.2 hNe))
      (fun attempt _ => applies_sameContent attempt.before attempt.request) h.1
      (Bool.not_eq_true _ ▸ hCalm)
    exact hFollows.find hFound

end Runs

/-- Between two states of a run without loads in which no fence, epoch advance or
invalidation changes the digest of the set of an entity, the same entity generation and the
same set generation mean the same digest. -/
theorem set_generation_identifies_digest (options : Options) (earlier later : List Operation)
    (id : EntityId)
    (hRun : Guarded Operation.apply (KeepsDigest id) (afterRun options earlier) later)
    (a b : EntityState) (hEarlier : (afterRun options earlier).findEntity id = some a)
    (hLater : (afterRun options (earlier ++ later)).findEntity id = some b)
    (hGeneration : a.currentGeneration = b.currentGeneration)
    (hSetGeneration : a.setGeneration = b.setGeneration) :
    a.publishedDigest = b.publishedDigest := by
  have hLasts : ContentLasts id (afterRun options earlier)
      (afterRun options (earlier ++ later)) := by
    rw [afterRun, afterRun, run_append]
    exact run_rel contentLasts_refl contentLasts_trans (fun _ _ => step_contentLasts) hRun
  obtain ⟨found, hFound, hWhile⟩ := hLasts a hEarlier
  rw [hLater, Option.some.injEq] at hFound
  subst hFound
  rcases hWhile with hAbove | ⟨-, hContent⟩
  · exact absurd hGeneration (UInt64.ne_of_lt hAbove)
  · exact hContent.2 hSetGeneration

/-! ### Two fences -/

namespace Sample

def firstSet : List Operation :=
  setup ++ [.publish (publication bootOne "attempt-1" 1 0 (claim .supported .processBound))]

end Sample

/-- The two generations of an entity, when they are the first ones. -/
theorem first_generations {registry : Registry} {id : EntityId}
    (h : (registry.findEntity id).map (fun entity =>
      (entity.currentGeneration, entity.setGeneration)) = some (1, 1)) :
    ∃ entity, registry.findEntity id = some entity ∧ entity.currentGeneration = 1 ∧
      entity.setGeneration = 1 := by
  obtain ⟨entity, hFound, hGenerations⟩ := Option.map_eq_some_iff.1 h
  exact ⟨entity, hFound, Prod.ext_iff.1 hGenerations⟩

/-- The fence of a boot that has published nothing keeps the digest. -/
theorem other_fence_keeps_digest :
    ((afterRun {} Sample.firstSet).findEntity Sample.entity).map
        EntityState.publishedDigest =
      ((afterRun {} (Sample.firstSet ++ [.fenceWorkerBoot Sample.bootTwo .unset])).findEntity
        Sample.entity).map EntityState.publishedDigest := by
  obtain ⟨a, hEarlier, hGeneration, hSetGeneration⟩ :=
    @first_generations (afterRun {} Sample.firstSet) Sample.entity (by decide +kernel)
  obtain ⟨b, hLater, hGeneration', hSetGeneration'⟩ :=
    @first_generations
      (afterRun {} (Sample.firstSet ++ [.fenceWorkerBoot Sample.bootTwo .unset]))
      Sample.entity (by decide +kernel)
  rw [hEarlier, hLater, Option.map_some, Option.map_some]
  exact congrArg some (set_generation_identifies_digest {} Sample.firstSet
    [.fenceWorkerBoot Sample.bootTwo .unset] Sample.entity (by decide +kernel) a b hEarlier
    hLater (hGeneration.trans hGeneration'.symm) (hSetGeneration.trans hSetGeneration'.symm))

/-- The fence of the publishing boot changes it under the same generations. -/
theorem fence_changes_digest :
    let before := (afterRun {} Sample.firstSet).findEntity Sample.entity
    let after := (afterRun {} (Sample.firstSet ++
      [.fenceWorkerBoot Sample.bootOne .unset])).findEntity Sample.entity
    before.map EntityState.currentGeneration = after.map EntityState.currentGeneration ∧
    before.map EntityState.setGeneration = after.map EntityState.setGeneration ∧
    before.map EntityState.publishedDigest ≠ after.map EntityState.publishedDigest := by
  decide +kernel

end FabricCapability.Ports

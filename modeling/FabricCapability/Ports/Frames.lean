import FabricCapability.Ports.Runs

/-!
# What the operations leave alone

Frame lemmas.  The evidence mutations of one entity change its capabilities and nothing
else of it; `Publish` changes no options, descriptors, epoch, authorities or fences; the
loops over all entities change the entities and the indexes only.

## Main results

* `runSteps_entity`: the steps of a publication keep everything of the entity but its
  capabilities.
* `publish_control`: a publication keeps the control state of the registry.
-/

namespace FabricCapability.Ports

open FabricCapability.Verified.KeyedList
open FabricCapability.Verified.Runs

/-! ## The entity under mutation -/

/-- Both are the same entity, up to the capabilities. -/
def SameEntity (a b : EntityState) : Prop := b = { a with capabilities := b.capabilities }

theorem SameEntity.refl (a : EntityState) : SameEntity a a := rfl

theorem SameEntity.trans {a b c : EntityState} (hab : SameEntity a b) (hbc : SameEntity b c) :
    SameEntity a c := by
  unfold SameEntity at *
  rw [hbc, hab]

section SameEntity

variable {a b : EntityState}

theorem SameEntity.id_eq (h : SameEntity a b) : b.id = a.id := by
  unfold SameEntity at h
  rw [h]

theorem SameEntity.currentGeneration_eq (h : SameEntity a b) :
    b.currentGeneration = a.currentGeneration := by
  unfold SameEntity at h
  rw [h]

theorem SameEntity.setGeneration_eq (h : SameEntity a b) :
    b.setGeneration = a.setGeneration := by
  unfold SameEntity at h
  rw [h]

theorem SameEntity.set_eq (h : SameEntity a b) : b.set = a.set := by
  unfold SameEntity at h
  rw [h]

theorem SameEntity.hasSet_eq (h : SameEntity a b) : b.hasSet = a.hasSet := by
  unfold SameEntity at h
  rw [h]

end SameEntity

theorem relabelEntity_entity (matching : EvidenceRecord → Bool)
    (currentness : EvidenceCurrentness) (reason : ReasonToken) (indexes : Indexes)
    (entity : EntityState) :
    SameEntity entity (relabelEntity matching currentness reason indexes entity).2 := rfl

theorem applyToEntry_entity (registry : Registry) (request : PublicationRequest)
    (claim : CapabilityClaim) (coverage : Coverage) (cell : Cell) (entry : CapabilityEntry) :
    SameEntity cell.entity
      (applyToEntry registry request claim coverage cell entry).1.entity := by
  unfold applyToEntry
  dsimp only
  split
  · rfl
  · split <;> rfl

theorem applyClaim_entity (registry : Registry) (request : PublicationRequest)
    (claim : CapabilityClaim) (coverage : Coverage) (cell : Cell) :
    SameEntity cell.entity (applyClaim registry request claim coverage cell).1.entity := by
  unfold applyClaim
  split
  · exact applyToEntry_entity ..
  · split
    · rfl
    · exact applyToEntry_entity ..

theorem withdrawIdentityClaim_entity (request : PublicationRequest)
    (capability : CapabilityId) (cell : Cell) :
    SameEntity cell.entity (withdrawIdentityClaim request capability cell).1.entity := by
  unfold withdrawIdentityClaim
  split
  · rfl
  · split
    · dsimp only
      split <;> rfl
    · rfl

theorem ApplyStep.run_entity (registry : Registry) (request : PublicationRequest)
    (cell : Cell) (step : ApplyStep) :
    SameEntity cell.entity (step.run registry request cell).1.entity := by
  cases step with
  | supersedeOtherIdentities => exact relabelEntity_entity ..
  | supersedeIdentity => exact relabelEntity_entity ..
  | applyClaim claim coverage => exact applyClaim_entity ..
  | withdrawClaim capability => exact withdrawIdentityClaim_entity ..
  | countSuperseded => exact SameEntity.refl _

/-- The rule of the loops of stage 10: what each step preserves, the loop preserves. -/
theorem runSteps_preserves {P : Cell → Prop} (registry : Registry)
    (request : PublicationRequest) {steps : List ApplyStep} {cell : Cell}
    (hStep : ∀ step ∈ steps, ∀ cell, P cell → P (step.run registry request cell).1)
    (h : P cell) : P (runSteps registry request cell steps).1 := by
  induction steps generalizing cell with
  | nil => exact h
  | cons step steps ih =>
      have hHere := hStep step (List.mem_cons_self ..) cell h
      unfold runSteps
      split
      · rename_i next e hEq
        rw [hEq] at hHere
        exact hHere
      · rename_i next hEq
        rw [hEq] at hHere
        exact ih (fun step hMem => hStep step (List.mem_cons_of_mem _ hMem)) hHere

theorem runSteps_entity (registry : Registry) (request : PublicationRequest)
    (steps : List ApplyStep) (cell : Cell) :
    SameEntity cell.entity (runSteps registry request cell steps).1.entity :=
  runSteps_preserves (P := fun c => SameEntity cell.entity c.entity) registry request
    (fun step _ c hSame => hSame.trans (step.run_entity registry request c))
    (SameEntity.refl _)

/-- The entity that stage 10 hands on is the one in its cell. -/
theorem applyRequest_entity {registry applied : Registry} {request : PublicationRequest}
    {entity published : EntityState} {steps : List ApplyStep}
    (h : applyRequest registry request entity steps = (applied, .ok published)) :
    SameEntity entity published ∧
      applied = registry.setCell
        (runSteps registry request (registry.cell entity) steps).1 ∧
      published = (runSteps registry request (registry.cell entity) steps).1.entity := by
  have hSame := runSteps_entity registry request steps (registry.cell entity)
  unfold applyRequest at h
  obtain ⟨hApplied, hOut⟩ := Prod.ext_iff.1 h
  cases hRun : (runSteps registry request (registry.cell entity) steps).2 with
  | error e => simp [hRun, Except.map] at hOut
  | ok u =>
      simp only [hRun, Except.map, Except.ok.injEq] at hOut
      exact ⟨hOut ▸ hSame, hApplied.symm, hOut.symm⟩

/-! ## The control state -/

/-- Both registries have the same options, descriptors, epoch, authorities and fences. -/
structure SameControl (a b : Registry) : Prop where
  options : b.options = a.options
  schema : b.schema = a.schema
  epoch : b.epoch = a.epoch
  authorities : b.authorities = a.authorities
  fencedBoots : b.fencedBoots = a.fencedBoots
  fences : b.fences = a.fences

namespace SameControl

theorem refl (a : Registry) : SameControl a a := ⟨rfl, rfl, rfl, rfl, rfl, rfl⟩

theorem trans {a b c : Registry} (hab : SameControl a b) (hbc : SameControl b c) :
    SameControl a c where
  options := hbc.options.trans hab.options
  schema := hbc.schema.trans hab.schema
  epoch := hbc.epoch.trans hab.epoch
  authorities := hbc.authorities.trans hab.authorities
  fencedBoots := hbc.fencedBoots.trans hab.fencedBoots
  fences := hbc.fences.trans hab.fences

/-- The fields that stages 6 to 11 write are not part of the control state. -/
theorem of_fields {a : Registry} (registryGeneration : RegistryGeneration)
    (publishers : List (PublisherKey × PublisherRuntime)) (entities : List EntityState)
    (indexes : Indexes) (arrivalSequence : UInt64) (journal : Journal) :
    SameControl a
      { a with registryGeneration, publishers, entities, indexes, arrivalSequence, journal } :=
  ⟨rfl, rfl, rfl, rfl, rfl, rfl⟩

end SameControl

theorem bindGeneration_control (registry : Registry) (request : PublicationRequest)
    (entity : EntityState) :
    SameControl registry (bindGeneration registry request entity).1 := by
  unfold bindGeneration
  split
  · exact SameControl.refl _
  · split
    · dsimp only
      split <;> exact SameControl.of_fields ..
    · exact SameControl.refl _

theorem bindEntity_control (registry : Registry) (request : PublicationRequest) :
    SameControl registry (bindEntity registry request).1 := by
  unfold bindEntity
  split
  · exact bindGeneration_control ..
  · split
    · exact SameControl.refl _
    · exact SameControl.trans (SameControl.of_fields ..) (bindGeneration_control ..)

theorem advanceGenerations_control (registry : Registry) (entity : EntityState)
    (changed : Bool) :
    SameControl registry (advanceGenerations registry entity changed).1 := by
  unfold advanceGenerations
  split
  · split
    · exact SameControl.refl _
    · dsimp only
      split <;> exact SameControl.of_fields ..
  · exact SameControl.refl _

theorem commit_control (registry : Registry) (request : PublicationRequest)
    (before : Option EntityCapabilitySet) (entity : EntityState) (steps : List ApplyStep)
    (contentDigest : Bytes) :
    SameControl registry
      (commit registry request before entity steps contentDigest).1 := by
  have hAdvance := advanceGenerations_control registry entity (semanticChange before entity)
  unfold commit
  dsimp only
  split
  · rename_i hEq
    rw [hEq] at hAdvance
    exact hAdvance
  · rename_i hEq
    rw [hEq] at hAdvance
    exact hAdvance.trans (SameControl.of_fields ..)

theorem publish_control (registry : Registry) (request : PublicationRequest) :
    SameControl registry (publish registry request).1 :=
  publish_preserves (P := SameControl registry)
    (fun _ _ h => h.trans (SameControl.of_fields ..))
    (fun _ _ _ => bindEntity_control ..)
    (fun _ _ _ _ _ _ _ h => h.trans (SameControl.of_fields ..))
    (fun _ _ _ _ _ _ _ _ _ _ h => h.trans (commit_control ..))
    (SameControl.refl _)

theorem advanceRegistry_control {α : Type} (registry : Registry) (value : α) :
    SameControl registry (advanceRegistry registry value).1 := by
  unfold advanceRegistry
  split
  · exact SameControl.refl _
  · exact SameControl.of_fields ..

theorem visitEntities_control (registry : Registry)
    (visit : Indexes → EntityState → Indexes × EntityState) :
    SameControl registry (registry.visitEntities visit) :=
  SameControl.of_fields ..

theorem observeEntityGeneration_control (registry : Registry) (entity : EntityId)
    (generation : EntityGeneration) (reason : ReasonToken) :
    SameControl registry
      (observeEntityGeneration registry entity generation reason).1 := by
  unfold observeEntityGeneration
  split
  · exact SameControl.refl _
  · split
    · split
      · exact SameControl.refl _
      · exact SameControl.of_fields ..
    · split
      · exact SameControl.of_fields ..
      · split
        · exact SameControl.refl _
        · split
          · exact SameControl.refl _
          · dsimp only
            split <;> exact SameControl.of_fields ..

theorem invalidateEntity_control (registry : Registry) (entity : EntityId)
    (generation : EntityGeneration) (reason : ReasonToken) :
    SameControl registry (invalidateEntity registry entity generation reason).1 := by
  unfold invalidateEntity
  split
  · exact SameControl.refl _
  · split
    · exact SameControl.refl _
    · dsimp only
      split
      · split <;> exact SameControl.of_fields ..
      · exact SameControl.of_fields ..

theorem invalidateSource_control (registry : Registry) (source : SourceId)
    (reason : ReasonToken) :
    SameControl registry (invalidateSource registry source reason).1 := by
  unfold invalidateSource
  split
  · exact SameControl.refl _
  · dsimp only
    split
    · exact (visitEntities_control ..).trans (advanceRegistry_control ..)
    · exact visitEntities_control ..

end FabricCapability.Ports

import FabricCapability.Ports.EntityRules

/-!
# The schema of a registry over its runs

No call but the registration of a vendor descriptor touches the schema, and a registration
adds at most one descriptor that was checked and that is under a new identifier.

## Main results

* `run_schema`: what registrations keep holds of the schema in every run.
* `run_distinct`: no two descriptors have the same identifier.
-/

namespace FabricCapability.Ports

open FabricCapability.Verified.Runs

/-! ## Calls that leave the schema alone -/

theorem insertFence_schema (registry : Registry) (workerBoot : WorkerBootId)
    (reason : ReasonToken) :
    (insertFence registry workerBoot reason).1.schema = registry.schema := by
  unfold insertFence
  exact (advanceRegistry_control _ _).schema

theorem fenceWorkerBoot_schema (registry : Registry) (workerBoot : WorkerBootId)
    (reason : ReasonToken) :
    (fenceWorkerBoot registry workerBoot reason).1.schema = registry.schema := by
  unfold fenceWorkerBoot
  split
  · rfl
  split
  · rfl
  split
  · split
    · rfl
    · exact insertFence_schema ..
  · exact insertFence_schema ..

theorem advanceCoordinatorEpoch_schema (registry : Registry) (reason : ReasonToken) :
    (advanceCoordinatorEpoch registry reason).1.schema = registry.schema := by
  unfold advanceCoordinatorEpoch
  split
  · rfl
  · rw [(advanceRegistry_control _ _).schema, (visitEntities_control _ _).schema,
      fenceBoots_only]

theorem declareAuthority_schema (registry : Registry) (grant : AuthorityGrant) :
    (declareAuthority registry grant).1.schema = registry.schema := by
  unfold declareAuthority
  split
  · rfl
  · split
    · rfl
    · split <;> rfl

theorem registerPublisher_schema (registry : Registry) (publisher : PublisherId)
    (scope : AuthorityScopeId) (workerBoot : WorkerBootId) :
    (registerPublisher registry publisher scope workerBoot).1.schema = registry.schema := by
  unfold registerPublisher
  split
  · rfl
  split
  · rfl
  split
  · rfl
  dsimp only
  split
  · rfl
  split <;> rfl

theorem retirePublisher_schema (registry : Registry) (publisher : PublisherId)
    (workerBoot : WorkerBootId) :
    (retirePublisher registry publisher workerBoot).1.schema = registry.schema := by
  unfold retirePublisher
  dsimp only
  split <;> rfl

theorem load_schema (registry : Registry) (config : PersistenceConfig) (file : Option Bytes) :
    (load registry config file).1.schema = registry.schema := by
  unfold load
  split <;> rfl

/-! ## Registrations -/

/-- A registration that succeeds finds the descriptor, or adds it after its checks. -/
theorem registerVendorDescriptor_ok {schema next : CapabilitySchema}
    {descriptor : CapabilityDescriptor}
    (h : schema.registerVendorDescriptor descriptor = .ok next) :
    next = schema ∨
      validateDescriptor descriptor = .ok () ∧ schema.lookup descriptor.id = none ∧
        schema.vendorCount < kMaxVendorDescriptors ∧
        next = { table := schema.table ++ [descriptor], vendorCount := schema.vendorCount + 1 } := by
  unfold CapabilitySchema.registerVendorDescriptor at h
  obtain ⟨_, hValid, h⟩ := outcome_bind_eq_ok.1 h
  obtain ⟨-, h⟩ := ite_failure_eq_ok.1 h
  unfold CapabilitySchema.addVendorDescriptor at h
  split at h
  · split at h
    · cases h
      exact .inl rfl
    · cases h
  · rename_i hMissing
    split at h
    · cases h
    · rename_i hRoom
      cases h
      exact .inr ⟨hValid, hMissing, Nat.not_le.1 hRoom, rfl⟩

section Rule

variable {P : CapabilitySchema → Prop}

theorem step_schema (hRegister : ∀ schema next descriptor, P schema →
      schema.registerVendorDescriptor descriptor = .ok next → P next)
    {registry : Registry} {operation : Operation} (h : P registry.schema) :
    P (operation.apply registry).schema := by
  cases operation with
  | publish request =>
      show P (publish registry request).1.schema
      rw [(publish_control registry request).schema]
      exact h
  | publishBatch requests =>
      refine publishBatch_preserves (P := fun registry => P registry.schema)
        (fun attempt _ hBefore => ?_) h
      show P (publish attempt.before attempt.request).1.schema
      rw [(publish_control attempt.before attempt.request).schema]
      exact hBefore
  | fenceWorkerBoot workerBoot reason =>
      show P (fenceWorkerBoot registry workerBoot reason).1.schema
      rwa [fenceWorkerBoot_schema]
  | advanceCoordinatorEpoch reason =>
      show P (advanceCoordinatorEpoch registry reason).1.schema
      rwa [advanceCoordinatorEpoch_schema]
  | invalidateEntity entity generation reason =>
      show P (invalidateEntity registry entity generation reason).1.schema
      rwa [(invalidateEntity_control ..).schema]
  | invalidateSource source reason =>
      show P (invalidateSource registry source reason).1.schema
      rwa [(invalidateSource_control ..).schema]
  | observeEntityGeneration entity generation reason =>
      show P (observeEntityGeneration registry entity generation reason).1.schema
      rwa [(observeEntityGeneration_control ..).schema]
  | registerPublisher publisher scope workerBoot =>
      show P (registerPublisher registry publisher scope workerBoot).1.schema
      rwa [registerPublisher_schema]
  | retirePublisher publisher workerBoot =>
      show P (retirePublisher registry publisher workerBoot).1.schema
      rwa [retirePublisher_schema]
  | declareAuthority grant =>
      show P (declareAuthority registry grant).1.schema
      rwa [declareAuthority_schema]
  | registerVendorDescriptor descriptor =>
      show P (registerVendorDescriptor registry descriptor).1.schema
      unfold registerVendorDescriptor
      split
      · exact h
      · rename_i schema hOk
        exact hRegister _ _ _ h hOk
  | load config file =>
      show P (load registry config file).1.schema
      rwa [load_schema]
  | rehash publishers =>
      show P (if publishers.Perm registry.publishers then { registry with publishers }
        else registry).schema
      split <;> exact h

/-- What the canonical schema has, and registrations keep, the schema of every run has. -/
theorem run_schema (options : Options) (operations : List Operation)
    (hCanonical : P .canonical)
    (hRegister : ∀ schema next descriptor, P schema →
      schema.registerVendorDescriptor descriptor = .ok next → P next) :
    P (afterRun options operations).schema := by
  refine run_invariant (P := fun registry : Registry => P registry.schema)
    (fun _ _ _ h => step_schema hRegister h) (guarded_of_forall fun _ _ => trivial) ?_
  unfold Registry.init
  split <;> exact hCanonical

end Rule

/-! ## Identifiers and checks -/

/-- No two descriptors have the same identifier. -/
def CapabilitySchema.Distinct (schema : CapabilitySchema) : Prop :=
  (schema.table.map CapabilityDescriptor.id).Nodup

theorem registerVendorDescriptor_distinct {schema next : CapabilitySchema}
    {descriptor : CapabilityDescriptor} (h : schema.Distinct)
    (hOk : schema.registerVendorDescriptor descriptor = .ok next) : next.Distinct := by
  rcases registerVendorDescriptor_ok hOk with rfl | ⟨-, hMissing, -, rfl⟩
  · exact h
  · unfold CapabilitySchema.Distinct
    dsimp only
    rw [List.map_append, List.nodup_append]
    refine ⟨h, List.nodup_singleton _, ?_⟩
    rintro id hMem _ hNew rfl
    rw [List.map_singleton, List.mem_singleton] at hNew
    obtain ⟨held, hHeld, hId⟩ := List.mem_map.1 hMem
    have hAbsent := List.find?_eq_none.1 hMissing held hHeld
    rw [decide_eq_true_eq] at hAbsent
    exact hAbsent (hId.trans hNew)

/-- The texts of the canonical identifiers differ already as the numbers that they spell. -/
theorem canonical_texts :
    (canonicalTable.map fun descriptor => descriptor.id.toText).Nodup := by
  let spelled (text : Bytes) : Nat := text.foldl (fun n byte => n * 256 + byte.toNat) 0
  refine List.Nodup.of_map spelled ?_
  show ((canonicalTable.map fun descriptor => descriptor.id.toText).map spelled).Nodup
  decide +kernel

theorem canonical_distinct : CapabilitySchema.canonical.Distinct := by
  refine List.Nodup.of_map CapabilityId.toText ?_
  show ((canonicalTable.map CapabilityDescriptor.id).map CapabilityId.toText).Nodup
  rw [List.map_map]
  exact canonical_texts

theorem run_distinct (options : Options) (operations : List Operation) :
    (afterRun options operations).schema.Distinct :=
  run_schema options operations canonical_distinct fun _ _ _ => registerVendorDescriptor_distinct

end FabricCapability.Ports

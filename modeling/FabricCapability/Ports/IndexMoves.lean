import FabricCapability.Ports.SetTruth
import FabricCapability.Ports.IdCodec
import Mathlib.Logic.Function.Basic

/-!
# What the operations do to the indexes

The reverse index and the revalidation index are written in one place, `FinishResolution`,
which moves an entity from the bucket of the state that a capability had to the bucket of the
state it gets.  So the indexes stay right about an entity as long as every change of its
resolutions goes through `FinishResolution` (`Moves`).

The revalidation index tells capabilities apart by their texts, so all of this is for
capabilities whose texts differ (`TextsApart`).

## Main results

* `finishResolution_agrees`, `finishResolution_elsewhere`: the specification of
  `FinishResolution`.
* `relabelEntity_moves`, `runSteps_moves`: the mutations of one entity.
-/

namespace FabricCapability.Ports

open FabricCapability.Verified.KeyedList

/-! ## Buckets -/

namespace ReverseEntry

theorem bucket_setBucket (entry : ReverseEntry) (members : List EntityId)
    (state other : CapabilityState) :
    (entry.setBucket members state).bucket other =
      if other = state then members else entry.bucket other := by
  cases state <;> cases other <;> rfl

@[simp] theorem setBucket_capability (entry : ReverseEntry) (members : List EntityId)
    (state : CapabilityState) :
    (entry.setBucket members state).capability = entry.capability := by
  cases state <;> rfl

end ReverseEntry

namespace Indexes

variable {indexes : Indexes} {entity id : EntityId} {capability named : CapabilityId}
  {state held : CapabilityState}

theorem bucket_upsert (entry : ReverseEntry) :
    ({ indexes with
      reverse := upsert ReverseEntry.capability entry indexes.reverse } : Indexes).bucket
        named held =
      if named = entry.capability then entry.bucket held else indexes.bucket named held := by
  unfold bucket
  dsimp only
  by_cases hNamed : named = entry.capability
  · rw [if_pos hNamed, hNamed, lookup_upsert_self]
  · rw [if_neg hNamed, lookup_upsert_ne (Ne.symm hNamed)]

theorem mem_bucket_addToReverse :
    id ∈ (indexes.addToReverse entity capability state).bucket named held ↔
      id ∈ indexes.bucket named held ∨
        (id = entity ∧ named = capability ∧ held = state) := by
  unfold addToReverse
  dsimp only
  generalize hBase : (lookup ReverseEntry.capability capability indexes.reverse).getD
    { capability } = base
  have hKey : base.capability = capability := by
    rw [← hBase]
    cases hFound : lookup ReverseEntry.capability capability indexes.reverse with
    | none => rfl
    | some entry => exact lookup_key hFound
  have hBucket : base.bucket held = indexes.bucket capability held := by
    rw [← hBase, bucket]
    cases hFound : lookup ReverseEntry.capability capability indexes.reverse with
    | none => cases held <;> rfl
    | some entry => rfl
  rw [bucket_upsert, ReverseEntry.setBucket_capability, hKey, ReverseEntry.bucket_setBucket]
  by_cases hNamed : named = capability
  · rw [if_pos hNamed, hNamed]
    split
    · rename_i hState
      rw [mem_insertMember, ← hState, hBucket]
      simp
    · rename_i hState
      simp [hBucket, hState]
  · simp [hNamed]

theorem mem_bucket_removeFromReverse :
    id ∈ (indexes.removeFromReverse entity capability state).bucket named held ↔
      id ∈ indexes.bucket named held ∧
        ¬(id = entity ∧ named = capability ∧ held = state) := by
  unfold removeFromReverse
  split
  · rename_i base hFound
    have hKey : base.capability = capability := lookup_key hFound
    have hBucket : indexes.bucket capability held = base.bucket held := by rw [bucket, hFound]
    rw [bucket_upsert, ReverseEntry.setBucket_capability, hKey, ReverseEntry.bucket_setBucket]
    by_cases hNamed : named = capability
    · rw [if_pos hNamed, hNamed, hBucket]
      split
      · rename_i hState
        rw [mem_eraseMember, ← hState]
        simp
      · rename_i hState
        simp [hState]
    · simp [hNamed]
  · rename_i hMissing
    constructor
    · intro h
      refine ⟨h, ?_⟩
      rintro ⟨-, rfl, -⟩
      rw [bucket, hMissing] at h
      cases h
    · exact And.left

@[simp] theorem bucket_updateRevalidation (previous : Option CapabilityState)
    (current : CapabilityState) :
    (indexes.updateRevalidation entity capability previous current).bucket named held =
      indexes.bucket named held := by
  unfold updateRevalidation
  dsimp only
  split
  · rfl
  · split
    · split <;> rfl
    · rfl

@[simp] theorem bucket_touchNamespace :
    (indexes.touchNamespace capability).bucket named held = indexes.bucket named held := rfl

@[simp] theorem revalidation_touchNamespace :
    (indexes.touchNamespace capability).revalidation = indexes.revalidation := rfl

@[simp] theorem revalidation_addToReverse :
    (indexes.addToReverse entity capability state).revalidation = indexes.revalidation := rfl

@[simp] theorem revalidation_removeFromReverse :
    (indexes.removeFromReverse entity capability state).revalidation =
      indexes.revalidation := by
  unfold removeFromReverse
  split <;> rfl

/-- Where no other capability of the entity has the text of this one, the set follows the
state. -/
theorem mem_updateRevalidation {previous : Option CapabilityState}
    (hApart : ∀ c, (entity, c) ∈ indexes.revalidation → c.toText = capability.toText →
      c = capability)
    (hPrevious : (entity, capability) ∈ indexes.revalidation ↔
      previous = some .revalidationRequired) :
    (id, named) ∈ (indexes.updateRevalidation entity capability previous state).revalidation ↔
      if id = entity ∧ named = capability then state = .revalidationRequired
      else (id, named) ∈ indexes.revalidation := by
  have hKey : ∀ pair ∈ indexes.revalidation,
      revalidationKey pair = revalidationKey (entity, capability) →
        pair = (entity, capability) := by
    rintro ⟨other, c⟩ hMem hSame
    rw [revalidationKey, revalidationKey, Prod.mk.injEq] at hSame
    obtain rfl : other = entity := EntityId.toText_injective hSame.1
    rw [hApart c hMem hSame.2]
  unfold updateRevalidation
  dsimp only
  split
  · rename_i hLeaves
    rw [List.mem_filter, decide_eq_true_eq]
    split
    · rename_i hHere
      rw [hHere.1, hHere.2]
      simp [hLeaves.2]
    · rename_i hOther
      constructor
      · exact And.left
      · intro hMem
        refine ⟨hMem, fun hSame => hOther ?_⟩
        simpa using hKey _ hMem hSame
  · rename_i hStays
    split
    · rename_i hJoins
      split
      · rename_i hHeld
        obtain ⟨pair, hMem, hSame⟩ := List.any_eq_true.1 hHeld
        obtain rfl := hKey pair hMem (of_decide_eq_true hSame)
        exact absurd (hPrevious.1 hMem) hJoins.1
      · rw [List.mem_append, List.mem_singleton, Prod.mk.injEq]
        split
        · rename_i hHere
          simp [hHere, hJoins.2]
        · rename_i hOther
          simp [hOther]
    · rename_i hSame
      split
      · rename_i hHere
        rw [hHere.1, hHere.2, hPrevious]
        tauto
      · rfl

/-- No two entries of the reverse index are for one capability. -/
def Keyed (indexes : Indexes) : Prop :=
  (indexes.reverse.map ReverseEntry.capability).Nodup

/-- What the indexes say of an entity is what is held. -/
structure Agrees (indexes : Indexes) (id : EntityId)
    (held : CapabilityId → Option CapabilityState) : Prop where
  bucket : ∀ capability state,
    id ∈ indexes.bucket capability state ↔ held capability = some state
  revalidation : ∀ capability,
    (id, capability) ∈ indexes.revalidation ↔ held capability = some .revalidationRequired

/-- The indexes say of every other entity what they said. -/
def SameElsewhere (id : EntityId) (a b : Indexes) : Prop :=
  ∀ other, other ≠ id → ∀ held, a.Agrees other held → b.Agrees other held

end Indexes

/-! ## `FinishResolution` -/

section Finish

variable {indexes : Indexes} {id : EntityId} {held : CapabilityId → Option CapabilityState}

/-- The state that `FinishResolution` takes for the previous one. -/
def CapabilityEntry.lastState (entry : CapabilityEntry) : Option CapabilityState :=
  if entry.resolution.capability.isSet then some entry.resolution.state else none

variable {entry : CapabilityEntry} {resolution : CapabilityResolution}

theorem mem_bucket_finish (h : indexes.Agrees id held) (hHeld : entry.lastState = held entry.id)
    {other : EntityId} {capability : CapabilityId} {state : CapabilityState} :
    other ∈ (finishResolution indexes id entry resolution).1.bucket capability state ↔
      if other = id ∧ capability = entry.id then state = resolution.state
      else other ∈ indexes.bucket capability state := by
  have hHere : id ∈ indexes.bucket entry.id state ↔ entry.lastState = some state := by
    rw [hHeld]
    exact h.bucket ..
  unfold finishResolution
  dsimp only
  rw [Indexes.bucket_touchNamespace, Indexes.bucket_updateRevalidation]
  rw [CapabilityEntry.lastState] at hHere
  split
  · rename_i last hLast
    rw [hLast, Option.some.injEq] at hHere
    split
    · rename_i hMoves
      rw [Indexes.mem_bucket_addToReverse, Indexes.mem_bucket_removeFromReverse]
      split
      · rename_i hSame
        rw [hSame.1, hSame.2, hHere]
        constructor
        · rintro (⟨rfl, hOther⟩ | hNext)
          · exact absurd ⟨rfl, rfl, rfl⟩ hOther
          · exact hNext.2.2
        · intro hNext
          exact .inr ⟨rfl, rfl, hNext⟩
      · tauto
    · rename_i hStays
      split
      · rename_i hSame
        rw [hSame.1, hSame.2, hHere, not_not.1 hStays]
        exact eq_comm
      · rfl
  · rename_i hLast
    rw [hLast] at hHere
    rw [Indexes.mem_bucket_addToReverse]
    split
    · rename_i hSame
      rw [hSame.1, hSame.2, hHere]
      simp
    · tauto

theorem mem_revalidation_finish (h : indexes.Agrees id held)
    (hHeld : entry.lastState = held entry.id)
    (hApart : ∀ c, (held c).isSome = true → c.toText = entry.id.toText → c = entry.id)
    {other : EntityId} {capability : CapabilityId} :
    (other, capability) ∈ (finishResolution indexes id entry resolution).1.revalidation ↔
      if other = id ∧ capability = entry.id then resolution.state = .revalidationRequired
      else (other, capability) ∈ indexes.revalidation := by
  have hPrevious : (id, entry.id) ∈ indexes.revalidation ↔
      entry.lastState = some .revalidationRequired := by
    rw [hHeld]
    exact h.revalidation ..
  have hTexts : ∀ c, (id, c) ∈ indexes.revalidation → c.toText = entry.id.toText →
      c = entry.id := by
    intro c hMem
    refine hApart c ?_
    rw [(h.revalidation c).1 hMem]
    rfl
  unfold finishResolution
  dsimp only
  rw [Indexes.revalidation_touchNamespace]
  have hMoved : ∀ moved : Indexes, moved.revalidation = indexes.revalidation →
      ((other, capability) ∈ (moved.updateRevalidation id entry.id
        (if entry.resolution.capability.isSet then some entry.resolution.state else none)
        resolution.state).revalidation ↔
        if other = id ∧ capability = entry.id then resolution.state = .revalidationRequired
        else (other, capability) ∈ indexes.revalidation) := by
    intro moved hMoved
    rw [Indexes.mem_updateRevalidation (hMoved ▸ hTexts) (hMoved ▸ hPrevious), hMoved]
  apply hMoved
  split
  · split
    · simp
    · rfl
  · rfl

/-- The indexes follow a resolution, when they were right about the entry that it is for. -/
theorem finishResolution_agrees (h : indexes.Agrees id held)
    (hHeld : entry.lastState = held entry.id)
    (hApart : ∀ c, (held c).isSome = true → c.toText = entry.id.toText → c = entry.id) :
    (finishResolution indexes id entry resolution).1.Agrees id
      (Function.update held entry.id (some resolution.state)) := by
  constructor
  · intro capability state
    rw [mem_bucket_finish h hHeld, Function.update_apply]
    by_cases hSame : capability = entry.id
    · simp [hSame, eq_comm]
    · simp [hSame, h.bucket]
  · intro capability
    rw [mem_revalidation_finish h hHeld hApart, Function.update_apply]
    by_cases hSame : capability = entry.id
    · simp [hSame]
    · simp [hSame, h.revalidation]

theorem finishResolution_elsewhere (h : indexes.Agrees id held)
    (hHeld : entry.lastState = held entry.id)
    (hApart : ∀ c, (held c).isSome = true → c.toText = entry.id.toText → c = entry.id) :
    Indexes.SameElsewhere id indexes (finishResolution indexes id entry resolution).1 := by
  intro other hOther there hAgrees
  constructor
  · intro capability state
    rw [mem_bucket_finish h hHeld, if_neg fun hSame => hOther hSame.1]
    exact hAgrees.bucket ..
  · intro capability
    rw [mem_revalidation_finish h hHeld hApart, if_neg fun hSame => hOther hSame.1]
    exact hAgrees.revalidation ..

theorem finishResolution_keyed (h : indexes.Keyed) :
    (finishResolution indexes id entry resolution).1.Keyed := by
  have hAdd : ∀ (base : Indexes) entity capability state, base.Keyed →
      (base.addToReverse entity capability state).Keyed := fun _ _ _ _ hBase =>
    nodup_upsert hBase
  have hRemove : ∀ (base : Indexes) entity capability state, base.Keyed →
      (base.removeFromReverse entity capability state).Keyed := by
    intro base entity capability state hBase
    unfold Indexes.removeFromReverse
    split
    · exact nodup_upsert hBase
    · exact hBase
  have hUpdate : ∀ (base : Indexes) entity capability previous state, base.Keyed →
      ((base.updateRevalidation entity capability previous state).touchNamespace
        capability).Keyed := by
    intro base entity capability previous state hBase
    unfold Indexes.updateRevalidation
    dsimp only
    split
    · exact hBase
    · split
      · split <;> exact hBase
      · exact hBase
  unfold finishResolution
  dsimp only
  apply hUpdate
  split
  · split
    · exact hAdd _ _ _ _ (hRemove _ _ _ _ h)
    · exact h
  · exact hAdd _ _ _ _ h

end Finish

/-! ## Mutations of one entity -/

/-- The texts of the capabilities tell them apart. -/
def TextsApart (known : List CapabilityId) : Prop :=
  ∀ a ∈ known, ∀ b ∈ known, a.toText = b.toText → a = b

instance (known : List CapabilityId) : Decidable (TextsApart known) :=
  inferInstanceAs (Decidable (∀ a ∈ known, ∀ b ∈ known, a.toText = b.toText → a = b))

theorem TextsApart.mono {known fewer : List CapabilityId} (h : TextsApart known)
    (hSub : fewer ⊆ known) : TextsApart fewer :=
  fun a ha b hb => h a (hSub ha) b (hSub hb)

/-- The state of the resolution that an entity holds for a capability. -/
def EntityState.holds (entity : EntityState) (capability : CapabilityId) :
    Option CapabilityState :=
  (entity.findCapability capability).map fun entry => entry.resolution.state

/-- An entry as the operations leave it: resolved, and for a known capability. -/
structure CapabilityEntry.Settled (known : List CapabilityId) (entry : CapabilityEntry) :
    Prop where
  resolved : entry.resolution.capability.isSet = true
  named : entry.id.isSet = true
  known : entry.id ∈ known

/-- The indexes are right about the entity, whose entries are as the operations leave them. -/
structure InStep (known : List CapabilityId) (indexes : Indexes) (entity : EntityState) :
    Prop where
  keyed : indexes.Keyed
  agrees : indexes.Agrees entity.id entity.holds
  distinct : (entity.capabilities.map CapabilityEntry.id).Nodup
  settled : ∀ entry ∈ entity.capabilities, entry.Settled known

/-- A mutation of an entity with the indexes: they stay right about it, and stay the same
about the others. -/
structure Moves (known : List CapabilityId) (a : Indexes) (entity : EntityState)
    (b : Indexes) (later : EntityState) : Prop where
  id : later.id = entity.id
  step : InStep known a entity → InStep known b later
  elsewhere : InStep known a entity → Indexes.SameElsewhere entity.id a b

section Moves

variable {known : List CapabilityId} {indexes : Indexes} {entity : EntityState}

theorem Moves.trans {a b c : Indexes} {first second third : EntityState}
    (hab : Moves known a first b second) (hbc : Moves known b second c third) :
    Moves known a first c third where
  id := hbc.id.trans hab.id
  step h := hbc.step (hab.step h)
  elsewhere h other hOther held hAgrees :=
    hbc.elsewhere (hab.step h) other (hab.id.symm ▸ hOther) held
      (hab.elsewhere h other hOther held hAgrees)

/-- Only the identifier and the entries of an entity matter. -/
theorem Moves.of_capabilities {later : EntityState} (hId : later.id = entity.id)
    (hCapabilities : later.capabilities = entity.capabilities) :
    Moves known indexes entity indexes later where
  id := hId
  step h := by
    have hHolds : later.holds = entity.holds := by
      funext capability
      rw [EntityState.holds, EntityState.holds, EntityState.findCapability,
        EntityState.findCapability, hCapabilities]
    refine ⟨h.keyed, ?_, ?_, ?_⟩
    · rw [hId, hHolds]
      exact h.agrees
    · rw [hCapabilities]
      exact h.distinct
    · rw [hCapabilities]
      exact h.settled
  elsewhere _ _ _ _ hAgrees := hAgrees

theorem Moves.refl : Moves known indexes entity indexes entity := .of_capabilities rfl rfl

theorem holds_upsert (entry : CapabilityEntry) :
    ({ entity with
      capabilities := upsert CapabilityEntry.id entry entity.capabilities } :
        EntityState).holds =
      Function.update entity.holds entry.id (some entry.resolution.state) := by
  funext capability
  rw [Function.update_apply, EntityState.holds, EntityState.findCapability]
  split
  · rename_i hSame
    rw [hSame, lookup_upsert_self]
    rfl
  · rename_i hOther
    rw [lookup_upsert_ne (Ne.symm hOther)]
    rfl

/-- An entry that is written back without a new resolution. -/
theorem Moves.setEntry (entry : CapabilityEntry) {held : CapabilityEntry}
    (hFound : entity.findCapability entry.id = some held)
    (hResolution : entry.resolution = held.resolution) :
    Moves known indexes entity indexes { entity with
      capabilities := upsert CapabilityEntry.id entry entity.capabilities } where
  id := rfl
  step h := by
    refine ⟨h.keyed, ?_, nodup_upsert h.distinct, fun later hMem => ?_⟩
    · rw [holds_upsert, hResolution]
      have hHolds : entity.holds entry.id = some held.resolution.state := by
        rw [EntityState.holds, hFound]
        rfl
      rw [← hHolds, Function.update_eq_self]
      exact h.agrees
    · rcases mem_upsert hMem with rfl | hMem
      · have hSettled := h.settled held (lookup_mem hFound)
        have hId : held.id = later.id := lookup_key hFound
        exact ⟨hResolution ▸ hSettled.resolved, hId ▸ hSettled.named, hId ▸ hSettled.known⟩
      · exact h.settled later hMem
  elsewhere _ _ _ _ hAgrees := hAgrees

/-- An entry that is resolved and written back. -/
theorem Moves.resolve (hApart : TextsApart known) (entry : CapabilityEntry)
    (hNamed : entry.id.isSet = true) (hKnown : entry.id ∈ known)
    (hFound : entity.findCapability entry.id = none ∧ entry.lastState = none ∨
      ∃ held, entity.findCapability entry.id = some held ∧
        entry.resolution = held.resolution) :
    Moves known indexes entity
      (resolveCapability indexes entity.id entity.boundGeneration entry).1
      { entity with
        capabilities := upsert CapabilityEntry.id
          (resolveCapability indexes entity.id entity.boundGeneration entry).2
          entity.capabilities } := by
  -- what the indexes and the entity said of the entry before
  have hLast : InStep known indexes entity → entry.lastState = entity.holds entry.id := by
    intro h
    rcases hFound with ⟨hMissing, hNone⟩ | ⟨held, hHeld, hResolution⟩
    · rw [hNone, EntityState.holds, hMissing]
      rfl
    · rw [EntityState.holds, hHeld, CapabilityEntry.lastState, hResolution,
        if_pos (h.settled held (lookup_mem hHeld)).resolved]
      rfl
  have hTexts : InStep known indexes entity → ∀ c, (entity.holds c).isSome = true →
      c.toText = entry.id.toText → c = entry.id := by
    intro h c hHolds
    rw [EntityState.holds, Option.isSome_map] at hHolds
    obtain ⟨held, hHeld⟩ := Option.isSome_iff_exists.1 hHolds
    have hId : held.id = c := lookup_key hHeld
    exact hApart c (hId ▸ (h.settled held (lookup_mem hHeld)).known) _ hKnown
  refine ⟨rfl, fun h => ?_, fun h => ?_⟩
  · refine ⟨finishResolution_keyed h.keyed, ?_, nodup_upsert h.distinct, fun later hMem => ?_⟩
    · rw [holds_upsert]
      exact finishResolution_agrees h.agrees (hLast h) (hTexts h)
    · rcases mem_upsert hMem with rfl | hMem
      · refine ⟨?_, hNamed, hKnown⟩
        rw [resolveCapability_snd]
        dsimp only
        rw [computeResolution_capability]
        exact hNamed
      · exact h.settled later hMem
  · exact finishResolution_elsewhere h.agrees (hLast h) (hTexts h)

theorem Moves.resolve_held (hApart : TextsApart known) (entry : CapabilityEntry)
    {held : CapabilityEntry}
    (h : InStep known indexes entity) (hFound : entity.findCapability entry.id = some held)
    (hResolution : entry.resolution = held.resolution) :
    Moves known indexes entity
      (resolveCapability indexes entity.id entity.boundGeneration entry).1
      { entity with
        capabilities := upsert CapabilityEntry.id
          (resolveCapability indexes entity.id entity.boundGeneration entry).2
          entity.capabilities } := by
  have hSettled := h.settled held (lookup_mem hFound)
  have hId : held.id = entry.id := lookup_key hFound
  exact Moves.resolve hApart entry (hId ▸ hSettled.named) (hId ▸ hSettled.known)
    (.inr ⟨held, hFound, hResolution⟩)

/-- What holds of a mutation from an entity in step holds of the mutation. -/
theorem Moves.of_inStep {b : Indexes} {later : EntityState} (hId : later.id = entity.id)
    (h : InStep known indexes entity → Moves known indexes entity b later) :
    Moves known indexes entity b later :=
  ⟨hId, fun hStep => (h hStep).step hStep, fun hStep => (h hStep).elsewhere hStep⟩

/-- Relabelling the records of an entity, entry by entry. -/
theorem relabelEntity_moves (hApart : TextsApart known) (matching : EvidenceRecord → Bool)
    (currentness : EvidenceCurrentness) (reason : ReasonToken) :
    Moves known indexes entity
      (relabelEntity matching currentness reason indexes entity).1
      (relabelEntity matching currentness reason indexes entity).2 := by
  refine Moves.of_inStep rfl fun hStep => ?_
  have hLoop := mapAccum_induction (s := indexes)
    (f := relabelEntry entity.id entity.boundGeneration matching currentness reason)
    (P := fun s done rest => Moves known indexes entity s
      { entity with capabilities := done ++ rest }) (.of_capabilities rfl rfl) ?_
  · rw [List.append_nil] at hLoop
    exact hLoop
  · intro s done entry rest h
    refine h.trans ?_
    have hHere := h.step hStep
    unfold relabelEntry
    split
    · let relabelled : CapabilityEntry :=
        { entry with
          evidence := relabel matching currentness reason entry.evidence
          generation := nextOrSame entry.generation }
      have hFound : lookup CapabilityEntry.id entry.id (done ++ entry :: rest) = some entry :=
        lookup_of_mem hHere.distinct (List.mem_append_right _ (List.mem_cons_self ..))
      have hBefore : entry.id ∉ done.map CapabilityEntry.id := by
        have hDistinct := hHere.distinct
        rw [List.map_append, List.map_cons] at hDistinct
        exact fun hMem => List.disjoint_of_nodup_append hDistinct hMem (List.mem_cons_self ..)
      have hPlace : upsert CapabilityEntry.id
          (resolveCapability s entity.id entity.boundGeneration relabelled).2
            (done ++ entry :: rest) =
          done ++ (resolveCapability s entity.id entity.boundGeneration relabelled).2 :: rest :=
        upsert_append hBefore rfl
      have hMoves := @Moves.resolve_held known s
        { entity with capabilities := done ++ entry :: rest } hApart relabelled entry hHere
        hFound rfl
      dsimp only at hMoves
      rw [hPlace] at hMoves
      rw [List.append_assoc, List.singleton_append]
      exact hMoves
    · exact .of_capabilities rfl (by simp)

/-! ## The steps of a publication -/

variable {registry : Registry} {request : PublicationRequest} {cell : Cell}

/-- A mutation of a cell. -/
def CellMoves (known : List CapabilityId) (a b : Cell) : Prop :=
  Moves known a.indexes a.entity b.indexes b.entity

theorem applyToEntry_moves (hApart : TextsApart known)
    (hRoom : 0 < registry.options.maxEvidencePerCapability) {claim : CapabilityClaim}
    {coverage : Coverage} {entry : CapabilityEntry} (hNamed : entry.id.isSet = true)
    (hKnown : entry.id ∈ known)
    (hFound : cell.entity.findCapability entry.id = some entry ∨
      cell.entity.findCapability entry.id = none ∧ entry = { id := entry.id }) :
    CellMoves known cell (applyToEntry registry request claim coverage cell entry).1 := by
  unfold applyToEntry
  dsimp only
  split
  · rename_i hFull
    rcases hFound with hHeld | ⟨-, hNew⟩
    · exact Moves.setEntry _ hHeld rfl
    · -- a new entry has no evidence that could fill it
      have hNone : trimEvidence registry.options.maxEvidencePerCapability
          (relabel (liveOf request.sourceKey) .superseded request.reason entry.evidence) = [] := by
        rw [hNew]
        exact List.sublist_nil.1 (trimEvidence_sublist _ [])
      rw [hNone] at hFull
      exact absurd hFull (Nat.not_le.2 hRoom)
  · split
    · rename_i hExhausted
      rcases hFound with hHeld | ⟨-, hNew⟩
      · exact Moves.setEntry { entry with evidence := _ } hHeld rfl
      · rw [hNew] at hExhausted
        cases hExhausted
    · refine Moves.resolve hApart { entry with evidence := _, generation := _ } hNamed
        hKnown ?_
      rcases hFound with hHeld | ⟨hMissing, hNew⟩
      · exact .inr ⟨entry, hHeld, rfl⟩
      · refine .inl ⟨hMissing, ?_⟩
        rw [hNew]
        rfl

theorem applyClaim_moves (hApart : TextsApart known)
    (hRoom : 0 < registry.options.maxEvidencePerCapability) {claim : CapabilityClaim}
    {coverage : Coverage} (hNamed : claim.capability.isSet = true)
    (hKnown : claim.capability ∈ known) :
    CellMoves known cell (applyClaim registry request claim coverage cell).1 := by
  unfold applyClaim
  split
  · rename_i entry hHeld
    have hId : entry.id = claim.capability := lookup_key hHeld
    exact applyToEntry_moves hApart hRoom (hId ▸ hNamed) (hId ▸ hKnown) (.inl (hId ▸ hHeld))
  · rename_i hMissing
    split
    · exact Moves.refl
    · exact applyToEntry_moves hApart hRoom hNamed hKnown (.inr ⟨hMissing, rfl⟩)

theorem withdrawIdentityClaim_moves (hApart : TextsApart known) (capability : CapabilityId) :
    CellMoves known cell (withdrawIdentityClaim request capability cell).1 := by
  unfold withdrawIdentityClaim
  split
  · exact Moves.refl
  · rename_i entry hHeld
    have hId : entry.id = capability := lookup_key hHeld
    have hFound : cell.entity.findCapability entry.id = some entry := hId ▸ hHeld
    split
    · dsimp only
      split
      · exact Moves.setEntry { entry with evidence := _ } hFound rfl
      · exact Moves.of_inStep rfl fun hStep =>
          Moves.resolve_held hApart { entry with evidence := _, generation := _ }
            hStep hFound rfl
    · exact Moves.refl

/-- The step names a known capability that is set. -/
def ApplyStep.Fits (known : List CapabilityId) : ApplyStep → Prop
  | applyClaim claim _ => claim.capability.isSet = true ∧ claim.capability ∈ known
  | _ => True

theorem ApplyStep.run_moves (hApart : TextsApart known)
    (hRoom : 0 < registry.options.maxEvidencePerCapability) {step : ApplyStep}
    (hFits : step.Fits known) : CellMoves known cell (step.run registry request cell).1 := by
  cases step with
  | supersedeOtherIdentities => exact relabelEntity_moves hApart _ _ _
  | supersedeIdentity => exact relabelEntity_moves hApart _ _ _
  | applyClaim claim coverage => exact applyClaim_moves hApart hRoom hFits.1 hFits.2
  | withdrawClaim capability => exact withdrawIdentityClaim_moves hApart capability
  | countSuperseded => exact Moves.refl

theorem runSteps_moves (hApart : TextsApart known)
    (hRoom : 0 < registry.options.maxEvidencePerCapability) {steps : List ApplyStep}
    (hFits : ∀ step ∈ steps, step.Fits known) :
    CellMoves known cell (runSteps registry request cell steps).1 := by
  induction steps generalizing cell with
  | nil => exact Moves.refl
  | cons step steps ih =>
      have hFirst : CellMoves known cell (step.run registry request cell).1 :=
        step.run_moves hApart hRoom (hFits step (List.mem_cons_self ..))
      unfold runSteps
      split
      · rename_i next e hRun
        rw [hRun] at hFirst
        exact hFirst
      · rename_i next hRun
        rw [hRun] at hFirst
        exact Moves.trans hFirst (ih fun other hMem => hFits other (List.mem_cons_of_mem _ hMem))

end Moves

end FabricCapability.Ports

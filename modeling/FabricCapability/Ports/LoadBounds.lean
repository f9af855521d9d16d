import FabricCapability.Ports.Bounds
import FabricCapability.Ports.SetTruth

/-!
# The bounds after a load

`Load` checks the bounds of the format and not those of the options.  What it reads was
saved by a registry within its bounds, and it adds nothing: each stored list is read back
at most as long, the claims of a file belong to its capabilities, and no two capabilities of
an entity read back as one.

## Main results

* `loadedEntity_bounded`: an entity that is loaded.
* `publications_with_room_keep_bounds`: every registry of a deployment.
-/

namespace FabricCapability.Ports

open FabricCapability.Verified.KeyedList
open FabricCapability.Verified.Restores
open FabricCapability.Verified.Runs
open FabricCapability.Verified.StrictOrder

/-! ## Lists that are read back -/

theorem length_mapM {α β : Type} {f : α → Option β} {xs : List α} {ys : List β}
    (h : xs.mapM f = some ys) : ys.length = xs.length := by
  have hMap := @map_mapM _ _ _ (fun _ => ()) (fun _ => ()) _ _ _ (fun _ _ _ => rfl) h
  simpa using congrArg List.length hMap

theorem exists_of_mapM {α β : Type} {f : α → Option β} {xs : List α} {ys : List β} {x : α}
    (h : xs.mapM f = some ys) (hMem : x ∈ xs) : ∃ y ∈ ys, f x = some y := by
  induction xs generalizing ys with
  | nil => cases hMem
  | cons head xs ih =>
      obtain ⟨y, ys', hHead, hTail, rfl⟩ := mapM_cons_eq_some.1 h
      rcases List.mem_cons.1 hMem with rfl | hMem
      · exact ⟨y, List.mem_cons_self .., hHead⟩
      · obtain ⟨z, hz, hRead⟩ := ih hTail hMem
        exact ⟨z, List.mem_cons_of_mem _ hz, hRead⟩

theorem length_mapAccum {α β σ : Type} (f : σ → α → σ × β) (s : σ) (xs : List α) :
    (mapAccum f s xs).2.length = xs.length := by
  have hMap := @map_mapAccum α β σ f s xs _ (fun _ => ()) (fun _ => ()) fun _ _ => rfl
  simpa using congrArg List.length hMap

/-- Reading that takes the elements with one property to elements that had another. -/
theorem countP_mapM {α β : Type} {f : α → Option β} {p : α → Bool} {q : β → Bool}
    {xs : List α} {ys : List β} (hImage : ∀ x y, f x = some y → q y = true → p x = true)
    (h : xs.mapM f = some ys) : ys.countP q ≤ xs.countP p := by
  induction xs generalizing ys with
  | nil =>
      cases h
      exact Nat.le_refl _
  | cons x xs ih =>
      obtain ⟨y, ys', hHead, hTail, rfl⟩ := mapM_cons_eq_some.1 h
      have hRest := ih hTail
      have hHere := hImage x y hHead
      rw [List.countP_cons, List.countP_cons]
      by_cases hq : q y = true
      · rw [if_pos hq, if_pos (hHere hq)]
        omega
      · rw [if_neg hq]
        omega

/-- What a reread payload keeps of the fences and the registrations. -/
theorem StorePayload.reread_lists {payload reread : StorePayload}
    (h : payload.reread = some reread) :
    reread.fences = payload.fences ∧ reread.registrations = payload.registrations ∧
      ∀ fence ∈ payload.fences, fence.workerBoot.isSet = true := by
  unfold StorePayload.reread at h
  obtain ⟨authorities, -, h⟩ := Option.bind_eq_some_iff.1 h
  obtain ⟨fences, hFences, h⟩ := Option.bind_eq_some_iff.1 h
  obtain ⟨registrations, hRegistrations, h⟩ := Option.bind_eq_some_iff.1 h
  obtain ⟨entities, -, rfl⟩ := Option.map_eq_some_iff.1 h
  obtain ⟨hSet, hFences⟩ := mapM_guard_eq_some.1 (listed_eq_some.1 hFences).2
  obtain ⟨-, hRegistrations⟩ := mapM_guard_eq_some.1 (listed_eq_some.1 hRegistrations).2
  exact ⟨hFences, hRegistrations, List.all_eq_true.1 hSet⟩

/-! ## Registrations and fences -/

theorem loadRegistrations_spec (epoch : CoordinatorEpoch) (payload : StorePayload)
    (fenced : List WorkerBootId) (publishers : List (PublisherKey × PublisherRuntime))
    (stored : List StoredRegistration) (hReplay : ∀ held ∈ publishers, held.2.replay = []) :
    (loadRegistrations epoch payload fenced publishers stored).length ≤
        publishers.length + stored.length ∧
      ∀ held ∈ loadRegistrations epoch payload fenced publishers stored,
        held.2.replay = [] := by
  induction stored generalizing publishers with
  | nil => exact ⟨Nat.le_refl _, hReplay⟩
  | cons registration stored ih =>
      rw [loadRegistrations]
      split
      · obtain ⟨hLength, hRest⟩ := ih publishers hReplay
        refine ⟨?_, hRest⟩
        rw [List.length_cons]
        omega
      · have hStep : ∀ added : PublisherKey × PublisherRuntime, added.2.replay = [] →
            (loadRegistrations epoch payload fenced (upsert Prod.fst added publishers)
              stored).length ≤ publishers.length + (registration :: stored).length ∧
            ∀ held ∈ loadRegistrations epoch payload fenced
              (upsert Prod.fst added publishers) stored, held.2.replay = [] := by
          intro added hAdded
          have hUpsert := @length_upsert_le _ _ _ Prod.fst added publishers
          obtain ⟨hLength, hRest⟩ := ih (upsert Prod.fst added publishers) (by
            intro held hMem
            rcases mem_upsert hMem with rfl | hMem
            · exact hAdded
            · exact hReplay held hMem)
          refine ⟨?_, hRest⟩
          rw [List.length_cons]
          omega
        exact hStep _ rfl

section Outline

variable {options : Options} {saved target : Registry} {payload : StorePayload}

theorem loadPayload_outline (hReread : saved.payload.reread = some payload)
    (hSaved : saved.outline.Bounded options) (hTarget : target.options = options) :
    (loadPayload target payload).outline.Bounded options := by
  obtain ⟨hFences, hRegistrations, hSet⟩ := StorePayload.reread_lists hReread
  -- the boots of the fences are those that were saved, in the order of the file
  have hStored : (payload.fences.map StoredFence.workerBoot).Perm saved.fencedBoots := by
    rw [hFences, ← show saved.fences.map FenceRecord.workerBoot = saved.fencedBoots from
      hSaved.fences]
    show ((sortBy _ (saved.fences.map _)).map StoredFence.workerBoot).Perm _
    refine ((sortBy_perm _ _).map _).trans (List.Perm.of_eq ?_)
    rw [List.map_map]
    rfl
  have hBoots : payload.fenceRecords.map FenceRecord.workerBoot =
      payload.fences.map StoredFence.workerBoot := by
    unfold StorePayload.fenceRecords
    rw [List.filter_eq_self.2 fun fence hMem => hSet fence (hFences ▸ hMem), List.map_map]
    rfl
  have hDistinct : (payload.fenceRecords.map FenceRecord.workerBoot).Nodup := by
    rw [hBoots]
    exact hStored.nodup_iff.2 hSaved.distinct
  have hFenced : (loadPayload target payload).fencedBoots =
      payload.fenceRecords.map FenceRecord.workerBoot :=
    foldl_insertMember FenceRecord.workerBoot _ [] hDistinct
  obtain ⟨hLength, hReplay⟩ := loadRegistrations_spec (if payload.epoch = 0 then 1 else payload.epoch)
    payload (loadPayload target payload).fencedBoots [] payload.registrations
    fun _ hMem => by cases hMem
  constructor
  · exact hTarget
  · have hIds := RestartOf.map_id ⟨target, payload, hReread, rfl⟩
    exact hIds.length_eq ▸ hSaved.entities
  · refine Nat.le_trans hLength ?_
    rw [hRegistrations]
    show 0 + (sortBy _ ((saved.publishers.filter _).map _)).length ≤ _
    rw [length_sortBy, List.length_map, Nat.zero_add]
    exact Nat.le_trans (List.length_filter_le ..) hSaved.publishers
  · intro held hMem
    rw [hReplay held hMem]
    exact Nat.zero_le _
  · show (loadPayload target payload).fencedBoots.length ≤ _
    rw [hFenced, hBoots, hStored.length_eq]
    exact hSaved.fencedBoots
  · show (loadPayload target payload).fencedBoots.Nodup
    rw [hFenced]
    exact hDistinct
  · exact hFenced.symm

end Outline

/-! ## The entities of a file -/

section Entities

variable {options : Options} {held : EntityState} {stored : StoredEntity}

theorem anyAdjacent_eq_zip {α : Type} (tied : α → α → Bool) (xs : List α) :
    anyAdjacent tied xs = (xs.zip xs.tail).any fun pair => tied pair.1 pair.2 := by
  induction xs with
  | nil => rfl
  | cons x xs ih =>
      cases xs with
      | nil => rfl
      | cons y ys =>
          rw [anyAdjacent, ih]
          rfl

/-- A capability is read back under the identifier that its text parses to. -/
theorem StoredCapability.reread_eq_some {capability reread : StoredCapability}
    (h : capability.reread = some reread) :
    (CapabilityId.parse capability.id.toText).toOption = some reread.id ∧
      reread.id.toText = capability.id.toText := by
  unfold StoredCapability.reread at h
  obtain ⟨id, hParse, h⟩ := Option.bind_eq_some_iff.1 h
  cases h
  refine ⟨hParse, ?_⟩
  cases hEq : CapabilityId.parse capability.id.toText with
  | error e =>
      rw [hEq] at hParse
      cases hParse
  | ok parsed =>
      rw [hEq] at hParse
      cases hParse
      exact (CapabilityId.parse_inv hEq).2

/-- The check of the capabilities sorts them and refuses two of one text, provided that their
texts parse back to them. -/
theorem checkCapabilities_distinct {capabilities sorted : List StoredCapability}
    (hParsed : ∀ capability ∈ capabilities,
      (CapabilityId.parse capability.id.toText).toOption = some capability.id)
    (h : Store.checkCapabilities capabilities = .ok sorted) :
    sorted.Perm capabilities ∧
      (capabilities.map fun capability => capability.id.toText).Nodup := by
  let lt (a b : StoredCapability) : Bool := a.id.lt b.id
  have hPerm := sortBy_perm lt capabilities
  unfold Store.checkCapabilities at h
  dsimp only at h
  cases hNone : ((sortBy lt capabilities).zip (sortBy lt capabilities).tail).find? fun pair =>
      decide (pair.1.id = pair.2.id) with
  | some pair =>
      rw [hNone] at h
      cases h
  | none =>
      rw [hNone] at h
      cases h
      refine ⟨hPerm, ?_⟩
      have hApart : anyAdjacent (fun a b : StoredCapability =>
          decide (a.id.toText = b.id.toText)) (sortBy lt capabilities) = false := by
        rw [anyAdjacent_eq_zip, List.any_eq_false]
        intro pair hPair hSame
        rw [decide_eq_true_eq] at hSame
        -- identifiers that were parsed from the same text are the same
        have hFirst := hParsed _ (hPerm.mem_iff.1 (List.of_mem_zip hPair).1)
        have hSecond :=
          hParsed _ (hPerm.mem_iff.1 (List.mem_of_mem_tail (List.of_mem_zip hPair).2))
        rw [hSame, hSecond] at hFirst
        have hIds := List.find?_eq_none.1 hNone pair hPair
        rw [decide_eq_true_eq] at hIds
        exact hIds (Option.some.inj hFirst).symm
      have hTotal : StrictWeak lt :=
        bytesLt_total.comap fun capability : StoredCapability => capability.id.toText
      have hIncreasing := increasing_of_sorted _ (fun a b hab hba => decide_eq_true
        (bytesLt_total.eq_of_not_lt a.id.toText b.id.toText hab hba))
        (sortBy_pairwise hTotal capabilities) hApart
      have hPairwise := (increasing_iff_pairwise (fun a b c =>
        bytesLt_total.trans a.id.toText b.id.toText c.id.toText) _).1 hIncreasing
      refine ((hPerm.map fun capability => capability.id.toText).nodup_iff).1 ?_
      rw [List.Nodup, List.pairwise_map]
      refine hPairwise.imp fun {a b} hab hSame => ?_
      have hSelf : bytesLt a.id.toText b.id.toText = true := hab
      rw [hSame, bytesLt_total.irrefl] at hSelf
      cases hSelf

/-- The capabilities that a file is read back with have distinct texts. -/
theorem rereadCapabilities_spec {capabilities reread : List StoredCapability}
    (h : rereadCapabilities capabilities = some reread) :
    ∃ read, capabilities.mapM StoredCapability.reread = some read ∧ reread.Perm read ∧
      (read.map fun capability => capability.id.toText).Nodup := by
  unfold rereadCapabilities at h
  obtain ⟨read, hRead, h⟩ := Option.bind_eq_some_iff.1 h
  have hMap := (listed_eq_some.1 hRead).2
  have hParsed : ∀ capability ∈ read,
      (CapabilityId.parse capability.id.toText).toOption = some capability.id := by
    intro capability hMem
    obtain ⟨written, -, hReread⟩ := mem_of_mapM hMap hMem
    obtain ⟨hId, hText⟩ := StoredCapability.reread_eq_some hReread
    rw [hText]
    exact hId
  cases hCheck : Store.checkCapabilities read with
  | error e =>
      rw [hCheck] at h
      cases h
  | ok sorted =>
      rw [hCheck] at h
      obtain rfl := Option.some.inj h
      obtain ⟨hPerm, hTexts⟩ := checkCapabilities_distinct hParsed hCheck
      exact ⟨read, hMap, hPerm, hTexts⟩

theorem heldRecords_length (entity : EntityState) :
    entity.heldRecords.length = entity.recordCount := by
  rw [EntityState.heldRecords, EntityState.recordCount, List.length_flatMap]
  congr 1
  refine List.map_congr_left fun entry _ => ?_
  exact List.length_map _

/-- The capabilities that an entity is stored with have distinct texts, they are read back
as many, and what the text of one of them parses to is among them. -/
theorem RereadAs.capabilities_spec (h : held.stored.RereadAs stored) :
    (held.capabilities.map fun entry => entry.id.toText).Nodup ∧
      stored.capabilities.length = held.capabilities.length ∧
      ∀ entry ∈ held.capabilities, ∀ id,
        (CapabilityId.parse entry.id.toText).toOption = some id →
        id ∈ stored.capabilities.map StoredCapability.id := by
  obtain ⟨read, hMap, hPerm, hTexts⟩ := rereadCapabilities_spec h.capabilities
  have hStored : held.stored.capabilities.Perm (held.capabilities.map fun entry =>
      { id := entry.id, generation := entry.generation }) := sortBy_perm _ _
  refine ⟨?_, ?_, ?_⟩
  · have hSame := map_mapM (F := fun capability : StoredCapability => capability.id.toText)
      (fun _ _ hReread => (StoredCapability.reread_eq_some hReread).2) hMap
    rw [hSame, (hStored.map _).nodup_iff, List.map_map] at hTexts
    exact hTexts
  · rw [hPerm.length_eq, length_mapM hMap, hStored.length_eq, List.length_map]
  · intro entry hMem id hParse
    have hWritten : { id := entry.id, generation := entry.generation : StoredCapability } ∈
        held.stored.capabilities :=
      hStored.mem_iff.2 (List.mem_map_of_mem hMem)
    obtain ⟨reread, hRead, hReread⟩ := exists_of_mapM hMap hWritten
    obtain ⟨hId, -⟩ := StoredCapability.reread_eq_some hReread
    rw [hParse] at hId
    exact Option.some.inj hId ▸ List.mem_map_of_mem (hPerm.mem_iff.2 hRead)

/-- Every claim belongs to a capability of the entity. -/
theorem RereadAs.claims_known (h : held.stored.RereadAs stored) :
    ∀ claim ∈ stored.claims, claim.capability ∈ stored.capabilities.map StoredCapability.id := by
  intro claim hMem
  obtain ⟨written, hWritten, hReread⟩ := mem_of_mapM h.claims hMem
  obtain ⟨record, hRecord, rfl⟩ := List.mem_map.1 (held.stored_claims.mem_iff.1 hWritten)
  obtain ⟨entry, hEntry, hHeld⟩ := List.mem_flatMap.1 (List.mem_filter.1 hRecord).1
  obtain ⟨evidence, -, rfl⟩ := List.mem_map.1 hHeld
  refine (RereadAs.capabilities_spec h).2.2 entry hEntry claim.capability ?_
  unfold StoredClaim.reread at hReread
  obtain ⟨capability, hParse, hReread⟩ := Option.bind_eq_some_iff.1 hReread
  split at hReread
  · cases hReread
    exact hParse
  · cases hReread

theorem loadCapabilities_spec (entries : List CapabilityEntry)
    (capabilities : List StoredCapability) :
    (loadCapabilities entries capabilities).length ≤ entries.length + capabilities.length ∧
      (∀ id ∈ entries.map CapabilityEntry.id,
        id ∈ (loadCapabilities entries capabilities).map CapabilityEntry.id) ∧
      ∀ capability ∈ capabilities, capability.id.isSet = true →
        capability.id ∈ (loadCapabilities entries capabilities).map CapabilityEntry.id := by
  induction capabilities generalizing entries with
  | nil => exact ⟨Nat.le_refl _, fun _ hMem => hMem, fun _ hMem => by cases hMem⟩
  | cons capability capabilities ih =>
      rw [loadCapabilities]
      split
      · dsimp only
        generalize hAdded : ({ (lookup CapabilityEntry.id capability.id entries).getD
          { id := capability.id } with generation := capability.generation } :
            CapabilityEntry) = added
        have hId : added.id = capability.id := by
          rw [← hAdded]
          exact getD_lookup_id ..
        obtain ⟨hLength, hKept, hLoaded⟩ := ih (upsert CapabilityEntry.id added entries)
        have hUpsert := @length_upsert_le _ _ _ CapabilityEntry.id added entries
        have hMember : ∀ entry ∈ upsert CapabilityEntry.id added entries, entry.id ∈
            (loadCapabilities (upsert CapabilityEntry.id added entries) capabilities).map
              CapabilityEntry.id :=
          fun entry hMem => hKept _ (List.mem_map_of_mem hMem)
        have hNew := hMember added mem_upsert_self
        refine ⟨by rw [List.length_cons]; omega, ?_, ?_⟩
        · intro id hMem
          obtain ⟨entry, hEntry, rfl⟩ := List.mem_map.1 hMem
          by_cases hSame : entry.id = added.id
          · rw [hSame]
            exact hNew
          · exact hMember entry (mem_upsert_of_ne hEntry hSame)
        · intro other hMem hSet
          rcases List.mem_cons.1 hMem with rfl | hMem
          · rw [← hId]
            exact hNew
          · exact hLoaded other hMem hSet
      · rename_i hUnset
        obtain ⟨hLength, hKept, hLoaded⟩ := ih entries
        refine ⟨by rw [List.length_cons]; omega, hKept, ?_⟩
        intro other hMem hSet
        rcases List.mem_cons.1 hMem with rfl | hMem
        · exact absurd hSet hUnset
        · exact hLoaded other hMem hSet

/-- Claims for known capabilities add no entry. -/
theorem loadClaims_length {entity : EntityId} {bound : EntityGeneration}
    {registryGeneration : RegistryGeneration} {arrivals : UInt64}
    {entries : List CapabilityEntry} {claims : List StoredClaim}
    (h : ∀ claim ∈ claims, claim.capability.isSet = true →
      claim.capability ∈ entries.map CapabilityEntry.id) :
    (loadClaims entity bound registryGeneration arrivals entries claims).2.length =
      entries.length := by
  induction claims generalizing arrivals entries with
  | nil => rfl
  | cons claim claims ih =>
      rw [loadClaims]
      split
      · rename_i hSet
        dsimp only
        generalize hAdded : ({ (lookup CapabilityEntry.id claim.capability entries).getD
          { id := claim.capability } with
            evidence := ((lookup CapabilityEntry.id claim.capability entries).getD
              { id := claim.capability }).evidence ++
                [claim.record entity bound registryGeneration (arrivals + 1)] } :
            CapabilityEntry) = added
        have hKnown : added.id ∈ entries.map CapabilityEntry.id := by
          have hId : added.id = claim.capability := by
            rw [← hAdded]
            exact getD_lookup_id ..
          rw [hId]
          exact h claim (List.mem_cons_self ..) hSet
        rw [ih, length_upsert_of_mem hKnown]
        intro other hMem hOther
        rw [map_key_upsert, if_pos hKnown]
        exact h other (List.mem_cons_of_mem _ hMem) hOther
      · exact ih fun other hMem => h other (List.mem_cons_of_mem _ hMem)

/-- The records under one capability text belong to one entry. -/
theorem count_text_le {bound : Nat} {entries : List CapabilityEntry} (id : EntityId)
    (text : Bytes) (hTexts : (entries.map fun entry => entry.id.toText).Nodup)
    (hBound : ∀ entry ∈ entries, entry.evidenceCount ≤ bound) :
    (entries.flatMap (CapabilityEntry.heldRecords id)).countP
      (fun record => record.capability.toText = text) ≤ bound := by
  induction entries with
  | nil => exact Nat.zero_le _
  | cons entry entries ih =>
      rw [List.map_cons] at hTexts
      obtain ⟨hNew, hRest⟩ := List.nodup_cons.1 hTexts
      rw [List.flatMap_cons, List.countP_append]
      by_cases hText : entry.id.toText = text
      · have hOthers : (entries.flatMap (CapabilityEntry.heldRecords id)).countP
            (fun record => record.capability.toText = text) = 0 := by
          rw [List.countP_eq_zero]
          intro record hMem hSame
          obtain ⟨other, hOther, hHeld⟩ := List.mem_flatMap.1 hMem
          obtain ⟨evidence, -, rfl⟩ := List.mem_map.1 hHeld
          rw [decide_eq_true_eq] at hSame
          refine hNew (List.mem_map.2 ⟨other, hOther, ?_⟩)
          exact hSame.trans hText.symm
        have hHere := @List.countP_le_length _
          (fun record : HeldRecord => decide (record.capability.toText = text))
          (entry.heldRecords id)
        have hLength : (entry.heldRecords id).length = entry.evidenceCount :=
          List.length_map _
        have hEntry := hBound entry (List.mem_cons_self ..)
        omega
      · have hHere : (entry.heldRecords id).countP
            (fun record => record.capability.toText = text) = 0 := by
          rw [List.countP_eq_zero]
          intro record hMem hSame
          obtain ⟨evidence, -, rfl⟩ := List.mem_map.1 hMem
          rw [decide_eq_true_eq] at hSame
          exact hText hSame
        have hOthers := ih hRest fun other hMem => hBound other (List.mem_cons_of_mem _ hMem)
        omega

/-- An entity is loaded within the bounds that it was saved within. -/
theorem loadedEntity_bounded (h : held.stored.RereadAs stored) (hBounded : held.Bounded options)
    (registryGeneration : RegistryGeneration) (loading : Loading) :
    (loadEntity registryGeneration loading stored).2.Bounded options := by
  obtain ⟨hTexts, hLength, -⟩ := RereadAs.capabilities_spec h
  obtain ⟨hEntries, -, hLoaded⟩ := loadCapabilities_spec [] stored.capabilities
  have hCapabilities : (loadEntity registryGeneration loading stored).2.capabilities.length =
      (loadCapabilities [] stored.capabilities).length := by
    have hResolved : (loadEntity registryGeneration loading stored).2.capabilities.length =
        (loadClaims stored.id stored.bound registryGeneration loading.arrivalSequence
          (loadCapabilities [] stored.capabilities) stored.claims).2.length :=
      length_mapAccum ..
    rw [hResolved, loadClaims_length fun claim hMem hSet => ?_]
    obtain ⟨capability, hCapability, hId⟩ := List.mem_map.1 (RereadAs.claims_known h claim hMem)
    rw [← hId]
    exact hLoaded capability hCapability (hId ▸ hSet)
  have hStoredClaims : stored.claims.length ≤ held.recordCount := by
    rw [length_mapM h.claims, held.stored_claims.length_eq, List.length_map,
      ← heldRecords_length]
    exact List.length_filter_le ..
  refine ⟨⟨?_, fun entry hMem => ?_, ?_⟩, ?_⟩
  · have hSaved := hBounded.capabilities
    rw [List.length_nil] at hEntries
    omega
  · -- the records of the entry are claims under one text, which one saved entry has
    have hPerm := loadEntity_heldRecords (f := HeldRecord.capability) (fun _ _ => rfl)
      registryGeneration loading stored
    have hHere : entry.evidenceCount ≤
        ((loadEntity registryGeneration loading stored).2.heldRecords.map
          HeldRecord.capability).countP (· = entry.id) := by
      have hSub : (entry.heldRecords stored.id).Sublist
          (loadEntity registryGeneration loading stored).2.heldRecords := by
        rw [EntityState.heldRecords, List.flatMap_def]
        exact List.sublist_flatten_of_mem (List.mem_map_of_mem hMem)
      refine Nat.le_trans (Nat.le_of_eq ?_) ((hSub.map HeldRecord.capability).countP_le)
      rw [CapabilityEntry.heldRecords, List.map_map, List.countP_map]
      exact (List.countP_eq_length.2 fun record _ => decide_eq_true rfl).symm
    have hClaims : ((stored.claims.filter fun claim => claim.capability.isSet).map
        (HeldRecord.capability ∘ stored.loadedRecord registryGeneration)).countP (· = entry.id) ≤
          stored.claims.countP fun claim => claim.capability = entry.id := by
      rw [List.countP_map]
      exact List.filter_sublist.countP_le
    have hRead : (stored.claims.countP fun claim => claim.capability = entry.id) ≤
        held.stored.claims.countP fun claim => claim.capability.toText = entry.id.toText := by
      refine countP_mapM (fun written read hReread hId => ?_) h.claims
      rw [decide_eq_true_eq] at hId ⊢
      rw [← hId]
      exact (StoredClaim.reread_eq_some hReread).2.2.symm
    have hSaved : (held.stored.claims.countP fun claim =>
        claim.capability.toText = entry.id.toText) ≤
          held.heldRecords.countP fun record => record.capability.toText = entry.id.toText := by
      rw [held.stored_claims.countP_eq, List.countP_map]
      exact List.filter_sublist.countP_le
    have hBound : (held.heldRecords.countP fun record =>
        record.capability.toText = entry.id.toText) ≤ options.maxEvidencePerCapability :=
      count_text_le held.id entry.id.toText hTexts hBounded.evidence
    rw [hPerm.countP_eq] at hHere
    omega
  · rw [← heldRecords_length]
    have hRecords := loadEntity_heldRecords (f := fun _ => ()) (fun _ _ => rfl)
      registryGeneration loading stored
    have hCount := hRecords.length_eq
    rw [List.length_map, List.length_map] at hCount
    have hFilter := List.length_filter_le (fun claim : StoredClaim => claim.capability.isSet)
      stored.claims
    have hSaved := hBounded.records
    omega
  · show ((stored.history.filter _).map _).length ≤ _
    have hHistory : stored.history = held.history.map RetainedGeneration.stored := by
      rw [h.fields]
      rfl
    rw [List.length_map, hHistory]
    refine Nat.le_trans (List.length_filter_le ..) ?_
    rw [List.length_map]
    exact hBounded.history

end Entities

/-! ## Deployments -/

/-- A registry that restores what a registry within its bounds saved. -/
theorem restored_bounded {options : Options} {registry saved loaded : Registry}
    (hRestores : Restores registry saved loaded)
    (hRegistry : registry.outline.Bounded options ∧
      ∀ entity ∈ registry.entities, entity.Bounded options)
    (hSaved : saved.outline.Bounded options ∧
      ∀ entity ∈ saved.entities, entity.Bounded options) :
    loaded.outline.Bounded options ∧ ∀ entity ∈ loaded.entities, entity.Bounded options := by
  rcases restored_cases hRestores with rfl | ⟨payload, hReread, rfl⟩
  · exact hRegistry
  · refine ⟨loadPayload_outline hReread hSaved.1 hRegistry.1.options_eq, fun entity hMem => ?_⟩
    obtain ⟨held, hHeld, loading, stored, rfl, hRead⟩ := restored_entity hReread hMem
    exact loadedEntity_bounded hRead (hSaved.2 held hHeld) _ loading

/-- The constructor changes no bound of the options. -/
theorem init_options (options : Options) :
    (Registry.init options).options = options ∨
      (Registry.init options).options = { options with initialEpoch := 1 } := by
  unfold Registry.init
  split
  · exact .inr rfl
  · exact .inl rfl

theorem bounded_of_init {options : Options} {registry : Registry}
    (h : registry.outline.Bounded (Registry.init options).options)
    (hEach : ∀ entity ∈ registry.entities, entity.Bounded (Registry.init options).options) :
    registry.Bounded options := by
  have hEntities : registry.entities.length ≤ (Registry.init options).options.maxEntities :=
    Nat.le_trans (Nat.le_of_eq (List.length_map _).symm) h.entities
  rcases init_options options with hInit | hInit
  · rw [hInit] at h hEach hEntities
    exact ⟨hEntities, hEach, h.publishers, h.fencedBoots, h.replay⟩
  · rw [hInit] at h hEach hEntities
    exact ⟨hEntities, fun entity hMem => ⟨⟨(hEach entity hMem).capabilities,
      (hEach entity hMem).evidence, (hEach entity hMem).records⟩, (hEach entity hMem).history⟩,
      h.publishers, h.fencedBoots, h.replay⟩

/-- Where every claim that is applied finds room for its record, no bound is exceeded. -/
theorem publications_with_room_keep_bounds {options : Options} (hPositive : options.Positive)
    {past : List Transition} {registry : Registry}
    (h : Reached (deployment (· = options) PublishesWithRoom) past registry) :
    registry.Bounded options := by
  have hReplay : 0 < (Registry.init options).options.maxReplayEntriesPerPublisher := by
    rcases init_options options with hInit | hInit <;> rw [hInit] <;> exact hPositive.replay
  have hBounded := @reached_invariant _ _ _ (deployment (· = options) PublishesWithRoom)
    (fun _ registry => registry.outline.Bounded (Registry.init options).options ∧
      ∀ entity ∈ registry.entities, entity.Bounded (Registry.init options).options)
    (by
      rintro start ⟨_, rfl, rfl⟩
      refine ⟨init_outline _, fun entity hMem => ?_⟩
      rw [init_entities] at hMem
      cases hMem)
    (by
      rintro past registry operation ⟨hNoLoad, hRoom⟩ ⟨hOutline, hEach⟩
      exact ⟨outline_step hReplay hNoLoad hOutline,
        each_bounded_step hNoLoad hRoom hOutline.options_eq hEach⟩)
    (fun _ _ _ _ _ hRestores hRegistry hSaved => restored_bounded hRestores hRegistry hSaved)
    past registry h
  exact bounded_of_init hBounded.1 hBounded.2

namespace Sample

/-- Room for one record a capability. -/
def tight : Options := { maxEvidencePerCapability := 1 }

theorem tight_positive : tight.Positive := by
  constructor <;> decide

/-- The publisher claims the capability, and claims it again. -/
def claimedOnce : List Operation :=
  setup ++ [.publish (publication bootOne "attempt-1" 1 0 (claim .supported .durable))]

def claimedTwice : List Operation :=
  claimedOnce ++ [.publish (publication bootOne "attempt-2" 1 1 (claim .supported .durable))]

end Sample

open Sample

theorem first_claim_keeps_bounds :
    tight.Positive ∧
      Guarded Operation.apply (fun registry operation =>
        NoLoad registry operation ∧ PublishesWithRoom registry operation)
        (Registry.init tight) claimedOnce ∧
      (afterRun tight claimedOnce).Bounded tight := by
  have hGuard : Guarded Operation.apply (fun registry operation =>
      NoLoad registry operation ∧ PublishesWithRoom registry operation)
      (Registry.init tight) claimedOnce := by decide +kernel
  exact ⟨tight_positive, hGuard,
    publications_with_room_keep_bounds tight_positive (reached_of_operations rfl hGuard)⟩

/-- The first record is superseded, which leaves room for a live record, and it is not
erased before there are two. -/
theorem second_claim_exceeds_bound :
    ¬∀ options : Options, options.Positive → ∀ past registry,
      Reached (deployment (· = options) fun _ _ => True) past registry →
      registry.Bounded options := by
  intro h
  have hGuard : Guarded Operation.apply (fun registry operation =>
      NoLoad registry operation ∧ True) (Registry.init tight) claimedTwice := by
    refine guarded_append.2 ⟨?_, ?_⟩ <;> repeat' constructor
  have hBounded := h tight tight_positive _ _ (reached_of_operations rfl hGuard)
  have hCounts : (afterRun tight claimedTwice).entities.all (fun entity =>
      entity.capabilities.all fun entry => entry.evidenceCount ≤ 1) = false := by
    decide +kernel
  refine absurd (List.all_eq_true.2 fun entity hMem => ?_) (Bool.eq_false_iff.1 hCounts)
  refine List.all_eq_true.2 fun entry hEntry => ?_
  exact decide_eq_true ((hBounded.each entity hMem).evidence entry hEntry)

end FabricCapability.Ports

import FabricCapability.Ports.EntryRules
import FabricCapability.Ports.OptimisticLocking

/-!
# The steps of a commit, entry by entry

`EntryChange` lists the changes that a step may make.  Here is which step makes one, read
off the step and the evidence alone: a step that succeeds acts on the entry of a capability
or leaves it as it was (`step_entryOf`).  So the run of a committed publication can be
followed in one entry, whatever else the steps do.

Each step that acts advances the generation of the entry.  How many do is counted by
`actsOn` from the evidence held before and the steps, without running them; a commit
advances each capability generation at most once exactly when that count says so.

## Main results

* `step_entryOf`: one step in one entry.
* `generations_advance_once_iff`: when a commit is one step of every capability.
* `snapshot_advances_twice`: a full snapshot that repeats a claim.
-/

namespace FabricCapability.Ports

open FabricCapability.Verified.KeyedList

/-! ## Entries of an entity -/

/-- The entry of a capability, blank when there is none. -/
def EntityState.entryOf (entity : EntityState) (capability : CapabilityId) :
    CapabilityEntry :=
  (entity.findCapability capability).getD { id := capability }

/-- The entry of a capability of a registered entity, blank when there is none. -/
def Registry.entryOf (registry : Registry) (entity : EntityId) (capability : CapabilityId) :
    CapabilityEntry :=
  ((registry.findEntity entity).bind (·.findCapability capability)).getD { id := capability }

theorem Registry.entryOf_found {registry : Registry} {id : EntityId} {entity : EntityState}
    (h : registry.findEntity id = some entity) (capability : CapabilityId) :
    registry.entryOf id capability = entity.entryOf capability := by
  rw [Registry.entryOf, h]
  rfl

theorem Registry.entryOf_missing {registry : Registry} {id : EntityId}
    (h : registry.findEntity id = none) (capability : CapabilityId) :
    registry.entryOf id capability = { id := capability } := by
  rw [Registry.entryOf, h]
  rfl

theorem EntityState.entryOf_empty {entity : EntityState} (h : entity.capabilities = [])
    (capability : CapabilityId) : entity.entryOf capability = { id := capability } := by
  rw [EntityState.entryOf, EntityState.findCapability, h]
  rfl

/-! ## Which steps act -/

/-- The records that an exclusive snapshot supersedes. -/
def liveOfOthers (keep : PublisherKey) (record : EvidenceRecord) : Bool :=
  !(record.publisher == keep.publisher && record.workerBoot == keep.boot) &&
    record.durability != .durable && !isRetired record.currentness

/-- Whether the step changes the entry of the capability, if it succeeds. -/
def ApplyStep.acts (request : PublicationRequest) (capability : CapabilityId)
    (evidence : List EvidenceRecord) : ApplyStep → Bool
  | applyClaim claim _ => claim.capability == capability
  | withdrawClaim named => named == capability && evidence.any (liveOf request.sourceKey)
  | supersedeIdentity => evidence.any (liveOf request.sourceKey)
  | supersedeOtherIdentities => evidence.any (liveOfOthers request.publisherKey)
  | countSuperseded => false

section Steps

variable {registry : Registry} {request : PublicationRequest} {cell : Cell}
  {capability : CapabilityId}

theorem find_setEntry_ne {entry : CapabilityEntry} (h : entry.id ≠ capability) :
    (cell.setEntry entry).entity.findCapability capability =
      cell.entity.findCapability capability :=
  lookup_upsert_ne h

/-- A claim leaves the entries of the other capabilities alone. -/
theorem applyClaim_find_ne {claim : CapabilityClaim} {coverage : Coverage}
    (h : claim.capability ≠ capability) :
    (applyClaim registry request claim coverage cell).1.entity.findCapability capability =
      cell.entity.findCapability capability := by
  have hApply : ∀ entry : CapabilityEntry, entry.id = claim.capability →
      (applyToEntry registry request claim coverage cell entry).1.entity.findCapability
        capability = cell.entity.findCapability capability := by
    intro entry hId
    have hNe : entry.id ≠ capability := hId ▸ h
    unfold applyToEntry
    dsimp only
    split
    · exact find_setEntry_ne hNe
    · split
      · exact @find_setEntry_ne { cell with arrivalSequence := _ } capability _ hNe
      · exact @find_setEntry_ne { cell with indexes := _, arrivalSequence := _ } capability _ hNe
  unfold applyClaim
  split
  · rename_i entry hFound
    exact hApply entry (lookup_key hFound)
  · split
    · rfl
    · exact hApply _ rfl

theorem withdraw_find_ne {named : CapabilityId} (h : named ≠ capability) :
    (withdrawIdentityClaim request named cell).1.entity.findCapability capability =
      cell.entity.findCapability capability := by
  unfold withdrawIdentityClaim
  split
  · rfl
  · rename_i entry hFound
    have hNe : entry.id ≠ capability := lookup_key hFound ▸ h
    split
    · dsimp only
      split
      · exact find_setEntry_ne hNe
      · exact @find_setEntry_ne { cell with indexes := _ } capability _ hNe
    · rfl

/-- A step that acts changes the entry in one of the ways of `EntryChange`; a step that
does not leaves the entry as it was. -/
def EntryStep (registry : Registry) (request : PublicationRequest) (cell : Cell)
    (step : ApplyStep) (acts : Bool) (entry later : CapabilityEntry) : Prop :=
  match acts with
  | true => EntryChange registry request cell step true entry later
  | false => later = entry

/-- A loop that relabels records, in one entry. -/
theorem relabel_entryOf {step : ApplyStep} {matching : EvidenceRecord → Bool}
    (hSelects : step.supersedes request = some matching) :
    EntryStep registry request cell step
      ((cell.entity.entryOf capability).evidence.any matching)
      (cell.entity.entryOf capability)
      ((cell.relabelEntity matching .superseded request.reason).entity.entryOf capability) := by
  have hLater : (cell.relabelEntity matching .superseded request.reason).entity.capabilities =
      (mapAccum (relabelEntry cell.entity.id cell.entity.boundGeneration matching .superseded
        request.reason) cell.indexes cell.entity.capabilities).2 := rfl
  have hIds : ∀ indexes entry, (relabelEntry cell.entity.id cell.entity.boundGeneration
      matching .superseded request.reason indexes entry).2.id = entry.id :=
    fun indexes entry => relabelEntry_id ..
  cases hFound : cell.entity.findCapability capability with
  | none =>
      have hMissing : (cell.relabelEntity matching .superseded
          request.reason).entity.findCapability capability = none := by
        rw [EntityState.findCapability, lookup_eq_none, hLater, map_mapAccum _ _ hIds]
        exact lookup_eq_none.1 hFound
      rw [EntityState.entryOf, EntityState.entryOf, hFound, hMissing]
      exact rfl
  | some entry =>
      obtain ⟨indexes, hLookup⟩ := lookup_mapAccum (s := cell.indexes) hIds hFound
      have hWritten : (cell.relabelEntity matching .superseded
          request.reason).entity.findCapability capability = some (relabelEntry cell.entity.id
            cell.entity.boundGeneration matching .superseded request.reason indexes entry).2 :=
        hLookup
      rw [EntityState.entryOf, EntityState.entryOf, hFound, hWritten, Option.getD_some,
        Option.getD_some, relabelEntry]
      cases hTouches : entry.evidence.any matching with
      | false => exact rfl
      | true => exact .superseded hSelects hTouches

/-- One step, seen in the entry of one capability. -/
theorem step_entryOf {step : ApplyStep} (hOk : (step.run registry request cell).2 = .ok ())
    (capability : CapabilityId) :
    EntryStep registry request cell step
      (step.acts request capability (cell.entity.entryOf capability).evidence)
      (cell.entity.entryOf capability)
      ((step.run registry request cell).1.entity.entryOf capability) := by
  cases step with
  | supersedeOtherIdentities => exact relabel_entryOf rfl
  | supersedeIdentity => exact relabel_entryOf rfl
  | countSuperseded => exact rfl
  | applyClaim claim coverage =>
      by_cases hNamed : claim.capability = capability
      · subst hNamed
        obtain ⟨next, hNext, hFound⟩ := applyClaim_ok hOk
        rw [ApplyStep.acts, beq_self_eq_true, ApplyStep.run]
        rw [EntityState.entryOf, EntityState.entryOf, hFound]
        exact .applied hNext
      · rw [ApplyStep.acts, beq_eq_false_iff_ne.2 hNamed]
        show EntityState.entryOf _ _ = _
        rw [EntityState.entryOf, ApplyStep.run, applyClaim_find_ne hNamed]
        rfl
  | withdrawClaim named =>
      by_cases hNamed : named = capability
      · subst hNamed
        rw [ApplyStep.acts, beq_self_eq_true, Bool.true_and]
        simp only [ApplyStep.run] at hOk ⊢
        revert hOk
        unfold withdrawIdentityClaim
        cases hFound : cell.entity.findCapability named with
        | none =>
            intro _
            rw [EntityState.entryOf, hFound]
            exact rfl
        | some entry =>
            obtain rfl : entry.id = named := lookup_key hFound
            have hEntry : cell.entity.entryOf entry.id = entry := by
              rw [EntityState.entryOf, hFound]
              rfl
            rw [hEntry]
            dsimp only
            cases hTouches : entry.evidence.any (liveOf request.sourceKey) with
            | false =>
                intro _
                exact hEntry
            | true =>
                cases hNext : counterNext entry.generation with
                | error e => exact fun hOk => by cases hOk
                | ok next =>
                    intro _
                    rw [EntityState.entryOf]
                    simp only [if_true]
                    rw [resolveEntry_find rfl]
                    exact .withdrawn hTouches hNext
      · rw [ApplyStep.acts, beq_eq_false_iff_ne.2 hNamed, Bool.false_and]
        show EntityState.entryOf _ _ = _
        rw [EntityState.entryOf, ApplyStep.run, withdraw_find_ne hNamed]
        rfl

end Steps

/-! ## Counting the steps that act -/

/-- The records that are not retired. -/
def liveRecords (evidence : List EvidenceRecord) : List EvidenceRecord :=
  evidence.filter fun record => !isRetired record.currentness

/-- How many steps act on the entry of the capability: `live` are the records held before
that are live still, and `fresh` tells whether the identity has a live record made since. -/
def actsOn (request : PublicationRequest) (capability : CapabilityId) :
    List EvidenceRecord → Bool → List ApplyStep → Nat
  | _, _, [] => 0
  | live, fresh, step :: steps =>
      let others := liveOfOthers request.publisherKey
      let own := liveOf request.sourceKey
      match step with
      | .supersedeOtherIdentities =>
          (live.any others).toNat +
            actsOn request capability (live.filter (!others ·)) fresh steps
      | .supersedeIdentity =>
          (live.any own || fresh).toNat +
            actsOn request capability (live.filter (!own ·)) false steps
      | .withdrawClaim named =>
          if named = capability then
            (live.any own || fresh).toNat +
              actsOn request capability (live.filter (!own ·)) false steps
          else actsOn request capability live fresh steps
      | .applyClaim claim _ =>
          if claim.capability = capability then
            1 + actsOn request capability (live.filter (!own ·)) true steps
          else actsOn request capability live fresh steps
      | .countSuperseded => actsOn request capability live fresh steps

/-- The live records of an entry are those of `live`, then those made since. -/
def Mirrors (request : PublicationRequest) (live : List EvidenceRecord) (fresh : Bool)
    (evidence : List EvidenceRecord) : Prop :=
  ∃ made, liveRecords evidence = live ++ made ∧ fresh = !made.isEmpty ∧
    ∀ record ∈ made, liveOf request.sourceKey record = true ∧
      liveOfOthers request.publisherKey record = false

theorem liveOf_live {key : SourceKey} {record : EvidenceRecord}
    (h : liveOf key record = true) : isRetired record.currentness = false := by
  simp only [liveOf, Bool.and_eq_true, Bool.not_eq_true'] at h
  exact h.2

theorem liveOfOthers_live {keep : PublisherKey} {record : EvidenceRecord}
    (h : liveOfOthers keep record = true) : isRetired record.currentness = false := by
  simp only [liveOfOthers, Bool.and_eq_true, Bool.not_eq_true'] at h
  exact h.2

/-- A predicate of live records looks at the live records only. -/
theorem any_liveRecords {matching : EvidenceRecord → Bool}
    (hLive : ∀ record, matching record = true → isRetired record.currentness = false)
    (evidence : List EvidenceRecord) :
    (liveRecords evidence).any matching = evidence.any matching := by
  rw [liveRecords, List.any_filter]
  congr 1
  funext record
  cases hMatches : matching record with
  | false => simp
  | true => simp [hLive record hMatches]

theorem liveRecords_relabel (matching : EvidenceRecord → Bool) (reason : ReasonToken)
    (evidence : List EvidenceRecord) :
    liveRecords (relabel matching .superseded reason evidence) =
      (liveRecords evidence).filter (!matching ·) := by
  induction evidence with
  | nil => rfl
  | cons record evidence ih =>
      unfold liveRecords relabel at ih ⊢
      rw [List.map_cons, List.filter_cons, List.filter_cons, ih]
      cases hMatches : matching record with
      | true =>
          cases hRetired : isRetired record.currentness <;>
            simp [hMatches, isRetired]
      | false =>
          cases hRetired : isRetired record.currentness <;> simp [hMatches, hRetired]

theorem liveRecords_trim (bound : Nat) (evidence : List EvidenceRecord) :
    liveRecords (trimEvidence bound evidence) = liveRecords evidence := by
  have hErase : ∀ n, liveRecords (eraseRetired n evidence) = liveRecords evidence := by
    unfold liveRecords
    induction evidence with
    | nil => intro n; cases n <;> rfl
    | cons record evidence ih =>
        intro n
        cases n with
        | zero => rfl
        | succ n =>
            rw [eraseRetired]
            split
            · rename_i hRetired
              rw [ih, List.filter_cons, hRetired]
              rfl
            · rw [List.filter_cons, List.filter_cons, ih]
  exact hErase _

section Counting

variable {registry : Registry} {request : PublicationRequest} {cell : Cell}
  {capability : CapabilityId} {live : List EvidenceRecord} {fresh : Bool}
  {evidence : List EvidenceRecord} {step : ApplyStep} {acts : Bool}
  {entry later : CapabilityEntry}

theorem mirrors_held (request : PublicationRequest) (evidence : List EvidenceRecord) :
    Mirrors request (liveRecords evidence) false evidence :=
  ⟨[], (List.append_nil _).symm, rfl, by simp⟩

theorem Mirrors.any_own (h : Mirrors request live fresh evidence) :
    evidence.any (liveOf request.sourceKey) =
      (live.any (liveOf request.sourceKey) || fresh) := by
  obtain ⟨made, hLive, rfl, hMade⟩ := h
  rw [← any_liveRecords (fun _ => liveOf_live), hLive, List.any_append]
  cases made with
  | nil => rfl
  | cons record made =>
      rw [List.any_cons, (hMade record (List.mem_cons_self ..)).1]
      rfl

theorem Mirrors.any_others (h : Mirrors request live fresh evidence) :
    evidence.any (liveOfOthers request.publisherKey) =
      live.any (liveOfOthers request.publisherKey) := by
  obtain ⟨made, hLive, -, hMade⟩ := h
  have hNone : made.any (liveOfOthers request.publisherKey) = false :=
    List.any_eq_false.2 fun record hMem => by simp [(hMade record hMem).2]
  rw [← any_liveRecords (fun _ => liveOfOthers_live), hLive, List.any_append, hNone,
    Bool.or_false]

theorem Mirrors.relabel_own (h : Mirrors request live fresh evidence) (reason : ReasonToken) :
    Mirrors request (live.filter (!liveOf request.sourceKey ·)) false
      (relabel (liveOf request.sourceKey) .superseded reason evidence) := by
  obtain ⟨made, hLive, -, hMade⟩ := h
  have hGone : made.filter (!liveOf request.sourceKey ·) = [] :=
    List.filter_eq_nil_iff.2 fun record hMem => by simp [(hMade record hMem).1]
  refine ⟨[], ?_, rfl, by simp⟩
  rw [liveRecords_relabel, hLive, List.filter_append, hGone]

theorem Mirrors.relabel_others (h : Mirrors request live fresh evidence)
    (reason : ReasonToken) :
    Mirrors request (live.filter (!liveOfOthers request.publisherKey ·)) fresh
      (relabel (liveOfOthers request.publisherKey) .superseded reason evidence) := by
  obtain ⟨made, hLive, hFresh, hMade⟩ := h
  have hKept : made.filter (!liveOfOthers request.publisherKey ·) = made :=
    List.filter_eq_self.2 fun record hMem => by simp [(hMade record hMem).2]
  refine ⟨made, ?_, hFresh, hMade⟩
  rw [liveRecords_relabel, hLive, List.filter_append, hKept]

theorem Mirrors.applied (h : Mirrors request live fresh entry.evidence)
    (claim : CapabilityClaim) (coverage : Coverage) :
    Mirrors request (live.filter (!liveOf request.sourceKey ·)) true
      (retainedEvidence registry request entry ++
        [appendedRecord registry request cell claim coverage entry]) := by
  obtain ⟨made, hLive, hFresh, hMade⟩ := h.relabel_own request.reason
  have hNone : made = [] := by simpa using hFresh
  subst hNone
  refine ⟨[appendedRecord registry request cell claim coverage entry], ?_, rfl, ?_⟩
  · unfold retainedEvidence
    unfold liveRecords at hLive ⊢
    rw [List.filter_append, ← liveRecords, liveRecords_trim, liveRecords, hLive,
      List.append_nil]
    rfl
  · intro record hMem
    rw [List.mem_singleton.1 hMem]
    simp [liveOf, liveOfOthers, appendedRecord, newRecord, PublicationRequest.sourceKey,
      PublicationRequest.publisherKey, isRetired]

/-- What a step that relabels leaves of the evidence, whether or not a record matches. -/
theorem entryStep_relabel (matching : EvidenceRecord → Bool)
    (hChange : EntryChange registry request cell step true entry later →
      later.evidence = relabel matching .superseded request.reason entry.evidence)
    (hStep : EntryStep registry request cell step (entry.evidence.any matching) entry later) :
    later.evidence = relabel matching .superseded request.reason entry.evidence := by
  cases hTouches : entry.evidence.any matching with
  | true =>
      rw [hTouches] at hStep
      exact hChange hStep
  | false =>
      rw [hTouches] at hStep
      obtain rfl : later = entry := hStep
      exact (relabel_of_none hTouches ..).symm

/-- Superseding and withdrawing relabel the records of the identity. -/
theorem EntryChange.relabels_own (h : EntryChange registry request cell step true entry later)
    (hStep : step = .supersedeIdentity ∨ ∃ named, step = .withdrawClaim named) :
    later.evidence =
      relabel (liveOf request.sourceKey) .superseded request.reason entry.evidence := by
  rcases hStep with rfl | ⟨named, rfl⟩
  · cases h with
    | superseded selects _ => cases selects; rfl
  · cases h with
    | superseded selects _ => cases selects
    | withdrawn => rfl

/-- The count follows the entry: the first step counts when it acts, and the rest is
counted from what it leaves. -/
theorem actsOn_step (h : Mirrors request live fresh entry.evidence)
    (hStep : EntryStep registry request cell step
      (step.acts request capability entry.evidence) entry later) :
    ∃ live' fresh', Mirrors request live' fresh' later.evidence ∧
      ∀ steps, actsOn request capability live fresh (step :: steps) =
        (step.acts request capability entry.evidence).toNat +
          actsOn request capability live' fresh' steps := by
  cases step with
  | countSuperseded =>
      obtain rfl : later = entry := hStep
      exact ⟨live, fresh, h, fun steps => (Nat.zero_add _).symm⟩
  | supersedeIdentity =>
      have hEvidence := entryStep_relabel (liveOf request.sourceKey)
        (fun hChange => hChange.relabels_own (.inl rfl)) hStep
      refine ⟨_, _, hEvidence ▸ h.relabel_own request.reason, fun steps => ?_⟩
      rw [actsOn, ApplyStep.acts, h.any_own]
  | supersedeOtherIdentities =>
      have hEvidence := entryStep_relabel (liveOfOthers request.publisherKey)
        (fun hChange => by cases hChange with | superseded selects _ => cases selects; rfl) hStep
      refine ⟨_, _, hEvidence ▸ h.relabel_others request.reason, fun steps => ?_⟩
      rw [actsOn, ApplyStep.acts, h.any_others]
  | withdrawClaim named =>
      by_cases hNamed : named = capability
      · subst hNamed
        rw [ApplyStep.acts, beq_self_eq_true, Bool.true_and] at hStep ⊢
        have hEvidence := entryStep_relabel (liveOf request.sourceKey)
          (fun hChange => hChange.relabels_own (.inr ⟨_, rfl⟩)) hStep
        refine ⟨_, _, hEvidence ▸ h.relabel_own request.reason, fun steps => ?_⟩
        rw [actsOn, if_pos rfl, h.any_own]
      · rw [ApplyStep.acts, beq_eq_false_iff_ne.2 hNamed, Bool.false_and] at hStep ⊢
        obtain rfl : later = entry := hStep
        refine ⟨live, fresh, h, fun steps => ?_⟩
        rw [actsOn, if_neg hNamed]
        exact (Nat.zero_add _).symm
  | applyClaim claim coverage =>
      by_cases hNamed : claim.capability = capability
      · subst hNamed
        rw [ApplyStep.acts, beq_self_eq_true] at hStep ⊢
        refine ⟨live.filter (!liveOf request.sourceKey ·), true, ?_, fun steps => ?_⟩
        · cases hStep with
          | superseded selects _ => cases selects
          | applied => exact h.applied claim coverage
        · rw [actsOn, if_pos rfl]
          rfl
      · rw [ApplyStep.acts, beq_eq_false_iff_ne.2 hNamed] at hStep ⊢
        obtain rfl : later = entry := hStep
        refine ⟨live, fresh, h, fun steps => ?_⟩
        rw [actsOn, if_neg hNamed]
        exact (Nat.zero_add _).symm

/-- `n` steps acted on an entry: its generation advanced as often, unless it ran into the
last one.  There only superseding succeeds, and each time fewer records are live. -/
structure Counted (n : Nat) (entry later : CapabilityEntry) : Prop where
  generation : later.generation.toNat = min (entry.generation.toNat + n) (2 ^ 64 - 1)
  idle : n = 0 → later = entry
  fewer : entry.generation.toNat = 2 ^ 64 - 1 →
    (liveRecords later.evidence).length + n ≤ (liveRecords entry.evidence).length

theorem Counted.trans {n m : Nat} {a b c : CapabilityEntry} (hab : Counted n a b)
    (hbc : Counted m b c) : Counted (n + m) a c := by
  refine ⟨?_, fun hZero => ?_, fun hLast => ?_⟩
  · have hFirst := hab.generation
    have hSecond := hbc.generation
    omega
  · rw [hbc.idle (by omega), hab.idle (by omega)]
  · have hMiddle : b.generation.toNat = 2 ^ 64 - 1 := by
      have hFirst := hab.generation
      omega
    have hFirst := hab.fewer hLast
    have hSecond := hbc.fewer hMiddle
    omega

theorem toNat_nextOrSame (generation : UInt64) :
    (nextOrSame generation).toNat = min (generation.toNat + 1) (2 ^ 64 - 1) := by
  unfold nextOrSame
  cases hNext : counterNext generation with
  | error e =>
      have hLast := toNat_of_exhausted hNext
      show generation.toNat = _
      omega
  | ok next =>
      have hToNat := toNat_of_counterNext hNext
      have hLt := next.toNat_lt
      show next.toNat = _
      omega

/-- Fewer records are live when one was superseded. -/
theorem fewer_relabel {matching : EvidenceRecord → Bool} {reason : ReasonToken}
    (hLive : ∀ record, matching record = true → isRetired record.currentness = false)
    (hTouches : evidence.any matching = true) :
    (liveRecords (relabel matching .superseded reason evidence)).length + 1 ≤
      (liveRecords evidence).length := by
  rw [← any_liveRecords hLive] at hTouches
  rw [liveRecords_relabel]
  have hSplit := (liveRecords evidence).length_eq_countP_add_countP matching
  have hSome : 0 < (liveRecords evidence).countP matching :=
    List.countP_pos_iff.2 (List.any_eq_true.1 hTouches)
  have hKept : ((liveRecords evidence).filter (!matching ·)).length =
      (liveRecords evidence).countP (fun record => ¬matching record = true) := by
    rw [← List.countP_eq_length_filter]
    congr 1
    funext record
    cases matching record <;> rfl
  omega

theorem supersedes_live {matching : EvidenceRecord → Bool}
    (hSelects : step.supersedes request = some matching) (record : EvidenceRecord)
    (hMatches : matching record = true) : isRetired record.currentness = false := by
  cases step with
  | supersedeOtherIdentities =>
      cases hSelects
      exact @liveOfOthers_live request.publisherKey _ hMatches
  | supersedeIdentity =>
      cases hSelects
      exact liveOf_live hMatches
  | _ => cases hSelects

/-- An entry whose generation was advanced had a generation left. -/
theorem not_last_of_counterNext {generation next : UInt64}
    (h : counterNext generation = .ok next) : generation.toNat ≠ 2 ^ 64 - 1 := by
  have hToNat := toNat_of_counterNext h
  have hLt := next.toNat_lt
  omega

theorem counted_advance {next : CapabilityGeneration} (hLater : later.generation = next)
    (hNext : counterNext entry.generation = .ok next) : Counted 1 entry later := by
  have hToNat := toNat_of_counterNext hNext
  have hLt := next.toNat_lt
  refine ⟨?_, fun h => absurd h Nat.one_ne_zero,
    fun hLast => absurd hLast (not_last_of_counterNext hNext)⟩
  rw [hLater]
  omega

theorem counted_step (hStep : EntryStep registry request cell step acts entry later) :
    Counted acts.toNat entry later := by
  cases acts with
  | false =>
      obtain rfl : later = entry := hStep
      have hLt := later.generation.toNat_lt
      refine ⟨?_, fun _ => rfl, fun _ => Nat.le_refl _⟩
      show later.generation.toNat = min (later.generation.toNat + 0) (2 ^ 64 - 1)
      omega
  | true =>
      cases hStep with
      | superseded selects touches =>
          exact ⟨toNat_nextOrSame _, fun h => absurd h Nat.one_ne_zero,
            fun _ => fewer_relabel (supersedes_live selects) touches⟩
      | withdrawn touches advances => exact counted_advance rfl advances
      | applied advances => exact counted_advance rfl advances

/-- The loop of stage 10, in one entry. -/
theorem runSteps_counted {steps : List ApplyStep}
    (hOk : (runSteps registry request cell steps).2 = .ok ())
    (h : Mirrors request live fresh (cell.entity.entryOf capability).evidence) :
    Counted (actsOn request capability live fresh steps) (cell.entity.entryOf capability)
      ((runSteps registry request cell steps).1.entity.entryOf capability) := by
  induction steps generalizing cell live fresh with
  | nil =>
      exact @counted_step registry request cell .countSuperseded false _ _ rfl
  | cons step steps ih =>
      have hStep := @step_entryOf registry request cell step
      rw [runSteps] at hOk ⊢
      generalize step.run registry request cell = ran at *
      obtain ⟨next, outcome⟩ := ran
      cases outcome with
      | error e => cases hOk
      | ok u =>
          obtain ⟨live', fresh', hMirrors, hCount⟩ := actsOn_step h (hStep rfl capability)
          rw [hCount]
          exact (counted_step (hStep rfl capability)).trans (ih hOk hMirrors)

end Counting

/-! ## One commit -/

/-- The steps of stage 10, for a request that the earlier stages accept. -/
def publicationSteps (registry : Registry) (request : PublicationRequest) :
    List ApplyStep :=
  match validateRequest registry request with
  | .ok (_, grant) => applySteps registry.schema grant request
  | .error _ => []

namespace Committed

variable {registry after : Registry} {request : PublicationRequest} {result : PublicationResult}

theorem publicationSteps_eq (c : Committed registry request after result) :
    publicationSteps registry request = applySteps c.bound.schema c.grant request := by
  have hControl := bindEntity_control registry request
  rw [c.binds] at hControl
  rw [publicationSteps, c.valid]
  show applySteps registry.schema c.grant request = _
  rw [hControl.schema]

/-- Stage 10 of a committed publication runs to its end. -/
theorem runs (c : Committed registry request after result) :
    (runSteps c.bound request (c.bound.cell c.entity)
      (publicationSteps registry request)).2 = .ok () := by
  have hApplies := c.applies
  rw [← c.publicationSteps_eq] at hApplies
  unfold applyRequest at hApplies
  have hOut := congrArg Prod.snd hApplies
  dsimp only at hOut
  revert hOut
  cases (runSteps c.bound request (c.bound.cell c.entity)
    (publicationSteps registry request)).2 with
  | error e => exact fun hOut => by cases hOut
  | ok u => exact fun _ => rfl

/-- The entries that a commit leaves are those that stage 10 left. -/
theorem entryOf_after (c : Committed registry request after result)
    (capability : CapabilityId) :
    after.entryOf request.entity capability =
      (runSteps c.bound request (c.bound.cell c.entity)
        (publicationSteps registry request)).1.entity.entryOf capability := by
  obtain ⟨registryGeneration, next, hAfter, hNext, -⟩ := c.entity_after
  obtain ⟨-, -, hPublished⟩ := applyRequest_entity c.applies
  rw [Registry.entryOf_found hAfter, c.publicationSteps_eq, ← hPublished, EntityState.entryOf,
    EntityState.findCapability, committedEntity_capabilities, hNext]
  rfl

/-- At an unchanged entity generation stage 10 starts from the entries that were held. -/
theorem entryOf_before (c : Committed registry request after result)
    (hSame : ∀ held, registry.findEntity request.entity = some held →
      held.currentGeneration = request.entityGeneration) (capability : CapabilityId) :
    registry.entryOf request.entity capability = c.entity.entryOf capability := by
  cases hFound : registry.findEntity request.entity with
  | some held =>
      rw [c.entity_before hFound (UInt64.le_of_eq (hSame held hFound).symm),
        Registry.entryOf_found hFound]
  | none =>
      obtain ⟨-, -, -, ⟨-, hBound⟩ | ⟨hFresh, -, -⟩⟩ := bindEntity_ok c.binds
      · rw [hFound] at hBound
        cases hBound
      · rw [Registry.entryOf_missing hFound, EntityState.entryOf_empty hFresh.capabilities]

end Committed

/-- The generation of the entry stays or advances by one, and it advances by one when the
evidence changes. -/
def AdvancesOnce (before after : CapabilityEntry) : Prop :=
  (after.generation = before.generation ∨
    after.generation.toNat = before.generation.toNat + 1) ∧
  (after.evidence ≠ before.evidence →
    after.generation.toNat = before.generation.toNat + 1)

theorem Counted.advancesOnce_iff {n : Nat} {entry later : CapabilityEntry}
    (h : Counted n entry later) :
    AdvancesOnce entry later ↔ n = 0 ∨ entry.generation.toNat < 2 ^ 64 - 1 ∧
      (n = 1 ∨ entry.generation.toNat + 1 = 2 ^ 64 - 1) := by
  have hGeneration := h.generation
  have hLt := entry.generation.toNat_lt
  constructor
  · rintro ⟨hStep, hChanged⟩
    by_cases hIdle : n = 0
    · exact .inl hIdle
    · have hNotLast : entry.generation.toNat ≠ 2 ^ 64 - 1 := by
        intro hLast
        have hFewer := h.fewer hLast
        have hDiffers : later.evidence ≠ entry.evidence := by
          intro hSame
          rw [hSame] at hFewer
          omega
        have hAdvanced := hChanged hDiffers
        omega
      refine .inr ⟨by omega, ?_⟩
      rcases hStep with hSame | hNext
      · rw [hSame] at hGeneration
        omega
      · omega
  · rintro (hIdle | ⟨hNotLast, hOnce⟩)
    · rw [h.idle hIdle]
      exact ⟨.inl rfl, fun hDiffers => absurd rfl hDiffers⟩
    · by_cases hIdle : n = 0
      · rw [h.idle hIdle]
        exact ⟨.inl rfl, fun hDiffers => absurd rfl hDiffers⟩
      · have hNext : later.generation.toNat = entry.generation.toNat + 1 := by omega
        exact ⟨.inr hNext, fun _ => hNext⟩

/-- How many steps of the publication act on the entry of a capability. -/
def Attempt.acts (attempt : Attempt) (capability : CapabilityId) : Nat :=
  actsOn attempt.request capability
    (liveRecords (attempt.before.entryOf attempt.request.entity capability).evidence) false
    (publicationSteps attempt.before attempt.request)

/-- A commit at an unchanged entity generation advances each capability generation at most
once, and once where it changed the evidence, exactly when at most one of its steps acts on
each entry, at a generation that can advance; from the last but one generation, further
steps cannot advance it. -/
theorem generations_advance_once_iff (attempt : Attempt) (hCommitted : attempt.committed = true)
    (hSame : ∀ held, attempt.before.findEntity attempt.request.entity = some held →
      held.currentGeneration = attempt.request.entityGeneration) :
    (∀ capability, AdvancesOnce (attempt.before.entryOf attempt.request.entity capability)
      (attempt.after.entryOf attempt.request.entity capability)) ↔
    ∀ capability,
      let generation :=
        (attempt.before.entryOf attempt.request.entity capability).generation.toNat
      attempt.acts capability = 0 ∨ generation < 2 ^ 64 - 1 ∧
        (attempt.acts capability = 1 ∨ generation + 1 = 2 ^ 64 - 1) := by
  obtain ⟨result, ⟨c⟩⟩ := attempt.committed_stages hCommitted
  refine forall_congr' fun capability => ?_
  have hBefore := c.entryOf_before hSame capability
  have hCounted := runSteps_counted c.runs
    (mirrors_held attempt.request (c.entity.entryOf capability).evidence)
  rw [← c.entryOf_after] at hCounted
  rw [Attempt.acts, hBefore]
  exact hCounted.advancesOnce_iff

/-! ### A snapshot that is repeated -/

namespace Sample

/-- A full snapshot of one claim. -/
def snapshot (attempt : String) (expected : CapabilitySetGeneration) : PublicationRequest :=
  { publication bootOne attempt 1 expected (claim .supported .processBound) with
    mode := .fullSnapshot }

def firstSnapshot : Attempt := ⟨afterRun {} setup, snapshot "attempt-1" 0⟩

def secondSnapshot : Attempt := ⟨firstSnapshot.after, snapshot "attempt-2" 1⟩

end Sample

theorem firstSnapshot_advances_once_iff :
    (∀ capability,
      AdvancesOnce (Sample.firstSnapshot.before.entryOf Sample.entity capability)
        (Sample.firstSnapshot.after.entryOf Sample.entity capability)) ↔
    ∀ capability,
      let generation :=
        (Sample.firstSnapshot.before.entryOf Sample.entity capability).generation.toNat
      Sample.firstSnapshot.acts capability = 0 ∨ generation < 2 ^ 64 - 1 ∧
        (Sample.firstSnapshot.acts capability = 1 ∨ generation + 1 = 2 ^ 64 - 1) := by
  refine generations_advance_once_iff Sample.firstSnapshot (by decide +kernel) fun held hHeld => ?_
  have hMissing : Sample.firstSnapshot.before.findEntity
      Sample.firstSnapshot.request.entity = none := by decide +kernel
  rw [hMissing] at hHeld
  cases hHeld

/-- The second snapshot supersedes the claim of the first and applies it again: two steps of
the capability in one commit. -/
theorem snapshot_advances_twice :
    Sample.secondSnapshot.committed = true ∧
    (Sample.secondSnapshot.before.findEntity Sample.entity).map
      EntityState.currentGeneration = some Sample.secondSnapshot.request.entityGeneration ∧
    ¬AdvancesOnce (Sample.secondSnapshot.before.entryOf Sample.entity Sample.capability)
      (Sample.secondSnapshot.after.entryOf Sample.entity Sample.capability) := by
  obtain ⟨hCommitted, hGeneration, hBefore, hAfter⟩ :
      Sample.secondSnapshot.committed = true ∧
      (Sample.secondSnapshot.before.findEntity Sample.entity).map
        EntityState.currentGeneration = some Sample.secondSnapshot.request.entityGeneration ∧
      (Sample.secondSnapshot.before.entryOf Sample.entity Sample.capability).generation = 1 ∧
      (Sample.secondSnapshot.after.entryOf Sample.entity Sample.capability).generation = 3 := by
    decide +kernel
  refine ⟨hCommitted, hGeneration, fun hOnce => ?_⟩
  have hStep := hOnce.1
  rw [hBefore, hAfter] at hStep
  revert hStep
  decide

end FabricCapability.Ports

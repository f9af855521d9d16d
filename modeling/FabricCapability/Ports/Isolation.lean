import FabricCapability.Ports.EntrySteps

/-!
# Publishers do not disturb each other

Superseding and withdrawing select records by source and worker boot, and nothing keeps two
publishers of one boot from naming the same source.  Trimming selects by age.  So a
publication may retire or erase the records of another publisher without an exclusive grant.

What a publication does to the records of the others can only take away: it retires some of
the live ones and erases some of the retired ones.  Nothing is ever put back (`Wanes`), so
the records of the others are what they were at the end exactly when no step has touched
them, and each step is decided by the evidence that was held before.

## Main results

* `others_kept_iff`: the loop of stage 10, in one entry.
* `publishers_isolated_iff`: when a publication leaves the records of the others alone.
* `shared_source_supersedes`: two publishers of one boot that share a source.
-/

namespace FabricCapability.Ports

open FabricCapability.Verified.KeyedList

/-! ## Evidence that wanes -/

/-- Records, counted twice while they are live. -/
def weight (evidence : List EvidenceRecord) : Nat :=
  evidence.length + (liveRecords evidence).length

/-- The later evidence weighs less, or it is the same. -/
def Wanes (evidence later : List EvidenceRecord) : Prop :=
  later = evidence ∨ weight later < weight evidence

theorem Wanes.refl (evidence : List EvidenceRecord) : Wanes evidence evidence := .inl rfl

theorem Wanes.trans {a b c : List EvidenceRecord} (hab : Wanes a b) (hbc : Wanes b c) :
    Wanes a c := by
  rcases hab with rfl | hFirst
  · exact hbc
  · rcases hbc with rfl | hSecond
    · exact .inr hFirst
    · exact .inr (Nat.lt_trans hSecond hFirst)

/-- What is the same in the end has been the same all the time. -/
theorem Wanes.same_iff {a b c : List EvidenceRecord} (hab : Wanes a b) (hbc : Wanes b c) :
    c = a ↔ b = a ∧ c = b := by
  constructor
  · rintro rfl
    rcases hab with hSame | hLess
    · exact ⟨hSame, hSame.symm⟩
    · rcases hbc with hSame | hLess'
      · exact ⟨hSame.symm, hSame⟩
      · exact absurd hLess (Nat.lt_asymm hLess')
  · rintro ⟨rfl, rfl⟩
    rfl

theorem wanes_sublist {evidence later : List EvidenceRecord} (h : later.Sublist evidence) :
    Wanes evidence later := by
  have hLive := (h.filter fun record => !isRetired record.currentness).length_le
  rcases Nat.lt_or_eq_of_le h.length_le with hShorter | hSame
  · right
    unfold weight liveRecords
    omega
  · exact .inl (h.eq_of_length hSame)

theorem wanes_relabel {matching : EvidenceRecord → Bool} (reason : ReasonToken)
    (hLive : ∀ record, matching record = true → isRetired record.currentness = false)
    (evidence : List EvidenceRecord) :
    Wanes evidence (relabel matching .superseded reason evidence) := by
  cases hTouches : evidence.any matching with
  | false => exact .inl (relabel_of_none hTouches ..)
  | true =>
      have hFewer := @fewer_relabel evidence matching reason hLive hTouches
      have hLength : (relabel matching .superseded reason evidence).length = evidence.length :=
        List.length_map _
      right
      unfold weight
      omega

/-- Relabelling live records changes something as soon as one matches. -/
theorem relabel_eq_iff {matching : EvidenceRecord → Bool} {reason : ReasonToken}
    (hLive : ∀ record, matching record = true → isRetired record.currentness = false)
    {evidence : List EvidenceRecord} :
    relabel matching .superseded reason evidence = evidence ↔
      ∀ record ∈ evidence, matching record = false := by
  constructor
  · intro hSame
    by_contra hSome
    have hTouches : evidence.any matching = true := by
      rw [List.any_eq_true]
      by_contra hNone
      refine hSome fun record hMem => ?_
      by_contra hMatches
      exact hNone ⟨record, hMem, by simpa using hMatches⟩
    have hFewer := @fewer_relabel evidence matching reason hLive hTouches
    rw [hSame] at hFewer
    omega
  · intro hNone
    exact relabel_of_none (List.any_eq_false.2 fun record hMem => by simp [hNone record hMem]) ..

/-! ## The records of the others -/

/-- The records that other publishers made. -/
def othersOf (publisher : PublisherId) (evidence : List EvidenceRecord) :
    List EvidenceRecord :=
  evidence.filter fun record => record.publisher != publisher

/-- The records that a trim may erase, from the first on. -/
def retiredRecords (evidence : List EvidenceRecord) : List EvidenceRecord :=
  evidence.filter fun record => isRetired record.currentness

theorem retiredRecords_cons (record : EvidenceRecord) (evidence : List EvidenceRecord) :
    retiredRecords (record :: evidence) =
      if isRetired record.currentness then record :: retiredRecords evidence
      else retiredRecords evidence :=
  List.filter_cons

theorem othersOf_cons (publisher : PublisherId) (record : EvidenceRecord)
    (evidence : List EvidenceRecord) :
    othersOf publisher (record :: evidence) =
      if record.publisher = publisher then othersOf publisher evidence
      else record :: othersOf publisher evidence := by
  unfold othersOf
  by_cases hOwn : record.publisher = publisher
  · rw [if_pos hOwn, List.filter_cons_of_neg (by simpa using hOwn)]
  · rw [if_neg hOwn, List.filter_cons_of_pos (by simpa using hOwn)]

theorem othersOf_relabel (publisher : PublisherId) (matching : EvidenceRecord → Bool)
    (currentness : EvidenceCurrentness) (reason : ReasonToken)
    (evidence : List EvidenceRecord) :
    othersOf publisher (relabel matching currentness reason evidence) =
      relabel matching currentness reason (othersOf publisher evidence) := by
  unfold othersOf relabel
  rw [List.filter_map]
  congr 1
  refine List.filter_congr fun record _ => ?_
  dsimp only [Function.comp]
  split <;> rfl

/-- Relabelling leaves the others alone when all that matches is the publisher's own. -/
theorem othersOf_relabel_iff {publisher : PublisherId} {matching : EvidenceRecord → Bool}
    {reason : ReasonToken}
    (hLive : ∀ record, matching record = true → isRetired record.currentness = false)
    {evidence : List EvidenceRecord} :
    othersOf publisher (relabel matching .superseded reason evidence) =
        othersOf publisher evidence ↔
      ∀ record ∈ evidence, matching record = true → record.publisher = publisher := by
  rw [othersOf_relabel, relabel_eq_iff hLive]
  constructor
  · intro hNone record hMem hMatches
    by_contra hOther
    have hFalse := hNone record (List.mem_filter.2 ⟨hMem, by simpa using hOther⟩)
    rw [hMatches] at hFalse
    cases hFalse
  · intro hOwn record hMem
    obtain ⟨hHeld, hOther⟩ := List.mem_filter.1 hMem
    by_contra hMatches
    exact (bne_iff_ne.1 hOther) (hOwn record hHeld (by simpa using hMatches))

/-- Erasing leaves the others alone when the first retired records are the publisher's
own. -/
theorem othersOf_erase_iff {publisher : PublisherId} (n : Nat)
    (evidence : List EvidenceRecord) :
    othersOf publisher (eraseRetired n evidence) = othersOf publisher evidence ↔
      ∀ record ∈ (retiredRecords evidence).take n, record.publisher = publisher := by
  induction evidence generalizing n with
  | nil => cases n <;> simp [eraseRetired, retiredRecords]
  | cons head evidence ih =>
      cases n with
      | zero => simp [eraseRetired]
      | succ n =>
          rw [eraseRetired, retiredRecords_cons]
          by_cases hRetired : isRetired head.currentness = true
          · rw [if_pos hRetired, if_pos hRetired, List.take_succ_cons, othersOf_cons]
            by_cases hOwn : head.publisher = publisher
            · rw [if_pos hOwn, ih]
              simp [hOwn]
            · rw [if_neg hOwn]
              have hShorter : (othersOf publisher (eraseRetired n evidence)).length ≤
                  (othersOf publisher evidence).length :=
                ((eraseRetired_sublist n evidence).filter _).length_le
              constructor
              · intro hSame
                rw [hSame] at hShorter
                exact absurd hShorter (Nat.not_succ_le_self _)
              · exact fun hAll => absurd (hAll head (List.mem_cons_self ..)) hOwn
          · rw [if_neg hRetired, if_neg hRetired, othersOf_cons, othersOf_cons, ← ih]
            split
            · exact Iff.rfl
            · exact List.cons_inj_right _

/-! ## What a publication may take away -/

/-- The step supersedes what the identity has in the entry of the capability. -/
def ApplyStep.relabelsOwn (capability : CapabilityId) : ApplyStep → Bool
  | supersedeIdentity => true
  | withdrawClaim named => named == capability
  | applyClaim claim _ => claim.capability == capability
  | _ => false

def ApplyStep.claims (capability : CapabilityId) : ApplyStep → Bool
  | applyClaim claim _ => claim.capability == capability
  | _ => false

/-- The records that are retired by the time a claim of the identity trims. -/
def removable (key : SourceKey) (evidence : List EvidenceRecord) : List EvidenceRecord :=
  evidence.filter fun record => isRetired record.currentness || liveOf key record

/-- How many records of an entry its claims erase. -/
def erasedBy (bound claims length : Nat) : Nat :=
  if claims = 0 then 0 else length + claims - 1 - bound

/-- The steps take nothing away from other publishers: the live records of the identity are
all the publisher's own when a step supersedes them, and so are the removable records that
the claims erase. -/
structure Spares (bound : Nat) (publisher : PublisherId) (key : SourceKey)
    (capability : CapabilityId) (steps : List ApplyStep) (evidence : List EvidenceRecord) :
    Prop where
  live : steps.any (ApplyStep.relabelsOwn capability) = true →
    ∀ record ∈ evidence, liveOf key record = true → record.publisher = publisher
  trimmed : ∀ record ∈ (removable key evidence).take
      (erasedBy bound (steps.countP (ApplyStep.claims capability)) evidence.length),
    record.publisher = publisher

/-- The publishers of the first records. -/
def FirstOwn (publisher : PublisherId) (n : Nat) (publishers : List PublisherId) : Prop :=
  ∀ other ∈ publishers.take n, other = publisher

theorem firstOwn_iff {publisher : PublisherId} {n : Nat} {evidence : List EvidenceRecord} :
    (∀ record ∈ evidence.take n, record.publisher = publisher) ↔
      FirstOwn publisher n (evidence.map EvidenceRecord.publisher) := by
  unfold FirstOwn
  rw [← List.map_take]
  constructor
  · intro hAll other hMem
    obtain ⟨record, hRecord, rfl⟩ := List.mem_map.1 hMem
    exact hAll record hRecord
  · exact fun hAll record hMem => hAll _ (List.mem_map_of_mem hMem)

theorem firstOwn_add {publisher : PublisherId} {k j : Nat} {publishers : List PublisherId} :
    FirstOwn publisher (k + j) publishers ↔
      FirstOwn publisher k publishers ∧
        FirstOwn publisher j (publishers.drop k ++ [publisher]) := by
  have hLast : FirstOwn publisher j (publishers.drop k ++ [publisher]) ↔
      FirstOwn publisher j (publishers.drop k) := by
    unfold FirstOwn
    rw [List.take_append]
    constructor
    · exact fun hAll other hMem => hAll other (List.mem_append_left _ hMem)
    · intro hAll other hMem
      rcases List.mem_append.1 hMem with hMem | hMem
      · exact hAll other hMem
      · exact List.mem_singleton.1 (List.mem_of_mem_take hMem)
  rw [hLast]
  unfold FirstOwn
  rw [List.take_add]
  simp [or_imp, forall_and]

theorem map_publisher_relabel (matching : EvidenceRecord → Bool)
    (currentness : EvidenceCurrentness) (reason : ReasonToken)
    (evidence : List EvidenceRecord) :
    (relabel matching currentness reason evidence).map EvidenceRecord.publisher =
      evidence.map EvidenceRecord.publisher := by
  unfold relabel
  rw [List.map_map]
  refine List.map_congr_left fun record _ => ?_
  dsimp only [Function.comp]
  split <;> rfl

/-- Superseding an identity retires what was removable. -/
theorem retiredRecords_relabel (key : SourceKey) (reason : ReasonToken)
    (evidence : List EvidenceRecord) :
    retiredRecords (relabel (liveOf key) .superseded reason evidence) =
      relabel (liveOf key) .superseded reason (removable key evidence) := by
  unfold retiredRecords relabel removable
  rw [List.filter_map]
  congr 1
  refine List.filter_congr fun record _ => ?_
  dsimp only [Function.comp]
  cases hLive : liveOf key record <;> simp [isRetired]

theorem removable_of_none {key : SourceKey} {evidence : List EvidenceRecord}
    (h : ∀ record ∈ evidence, liveOf key record = false) :
    removable key evidence = retiredRecords evidence :=
  List.filter_congr fun record hMem => by rw [h record hMem, Bool.or_false]

theorem liveOf_relabel {key : SourceKey} {reason : ReasonToken}
    {evidence : List EvidenceRecord} :
    ∀ record ∈ relabel (liveOf key) .superseded reason evidence,
      liveOf key record = false := by
  intro record hMem
  obtain ⟨held, -, rfl⟩ := List.mem_map.1 hMem
  split
  · simp [liveOf, isRetired]
  · rename_i hNot
    simpa using hNot

theorem retiredRecords_erase (n : Nat) (evidence : List EvidenceRecord) :
    retiredRecords (eraseRetired n evidence) = (retiredRecords evidence).drop n := by
  induction evidence generalizing n with
  | nil => cases n <;> simp [eraseRetired, retiredRecords]
  | cons head evidence ih =>
      cases n with
      | zero => rfl
      | succ n =>
          rw [eraseRetired, retiredRecords_cons]
          split
          · rw [ih, List.drop_succ_cons]
          · rename_i hLive
            rw [retiredRecords_cons, if_neg hLive, ih]

theorem length_split (evidence : List EvidenceRecord) :
    evidence.length = (retiredRecords evidence).length + (liveRecords evidence).length := by
  unfold retiredRecords liveRecords
  induction evidence with
  | nil => rfl
  | cons head evidence ih =>
      rw [List.filter_cons, List.filter_cons, List.length_cons, ih]
      cases isRetired head.currentness <;> simp <;> omega

theorem liveEvidenceCount_eq (evidence : List EvidenceRecord) :
    liveEvidenceCount evidence = (liveRecords evidence).length := by
  unfold liveEvidenceCount liveRecords
  rw [List.countP_eq_length_filter]
  congr 1
  refine List.filter_congr fun record _ => ?_
  cases record.currentness <;> rfl

section Steps

variable {registry : Registry} {request : PublicationRequest} {cell : Cell}
  {capability : CapabilityId} {step : ApplyStep} {steps : List ApplyStep}
  {entry later : CapabilityEntry}

theorem applyClaim_room {claim : CapabilityClaim} {coverage : Coverage}
    (h : (applyClaim registry request claim coverage cell).2 = .ok ()) :
    liveEvidenceCount (retainedEvidence registry request (cell.target claim)) <
      registry.options.maxEvidencePerCapability := by
  have hTarget : ∀ entry, cell.target claim = entry →
      (applyToEntry registry request claim coverage cell entry).2 = .ok () →
      liveEvidenceCount (retainedEvidence registry request (cell.target claim)) <
        registry.options.maxEvidencePerCapability := by
    rintro entry rfl hOk
    unfold applyToEntry at hOk
    dsimp only at hOk
    split at hOk
    · cases hOk
    · rename_i hRoom
      exact Nat.not_le.1 hRoom
  unfold applyClaim at h
  split at h
  · rename_i entry hFound
    exact hTarget entry (by rw [Cell.target, hFound]; rfl) h
  · rename_i hMissing
    split at h
    · cases h
    · exact hTarget _ (by rw [Cell.target, hMissing]; rfl) h

/-- The evidence once the publishing identity is superseded. -/
def supersededOwn (request : PublicationRequest) (evidence : List EvidenceRecord) :
    List EvidenceRecord :=
  relabel (liveOf request.sourceKey) .superseded request.reason evidence

theorem length_supersededOwn (evidence : List EvidenceRecord) :
    (supersededOwn request evidence).length = evidence.length :=
  List.length_map _

theorem retainedEvidence_eq :
    retainedEvidence registry request entry =
      eraseRetired (entry.evidence.length - registry.options.maxEvidencePerCapability)
        (supersededOwn request entry.evidence) := by
  rw [← @length_supersededOwn request]
  rfl

theorem liveOf_retained {record : EvidenceRecord}
    (hMem : record ∈ retainedEvidence registry request entry) :
    liveOf request.sourceKey record = false :=
  @liveOf_relabel _ request.reason entry.evidence record
    ((trimEvidence_sublist _ _).subset hMem)

/-- The records that a claim leaves in the entry of its capability. -/
def claimedEvidence (registry : Registry) (request : PublicationRequest) (cell : Cell)
    (claim : CapabilityClaim) (coverage : Coverage) (entry : CapabilityEntry) :
    List EvidenceRecord :=
  retainedEvidence registry request entry ++
    [appendedRecord registry request cell claim coverage entry]

section Claims

variable {claim : CapabilityClaim} {coverage : Coverage}

theorem othersOf_claimed :
    othersOf request.authority.publisher
        (claimedEvidence registry request cell claim coverage entry) =
      othersOf request.authority.publisher (retainedEvidence registry request entry) := by
  have hNew : othersOf request.authority.publisher
      [appendedRecord registry request cell claim coverage entry] = [] :=
    (othersOf_cons ..).trans (if_pos rfl)
  unfold claimedEvidence
  unfold othersOf at hNew ⊢
  rw [List.filter_append, hNew, List.append_nil]

/-- What is removable after a claim: the rest of what was before it, then the new record. -/
theorem removable_claimed :
    (removable request.sourceKey
        (claimedEvidence registry request cell claim coverage entry)).map
          EvidenceRecord.publisher =
      ((removable request.sourceKey entry.evidence).map EvidenceRecord.publisher).drop
          (entry.evidence.length - registry.options.maxEvidencePerCapability) ++
        [request.authority.publisher] := by
  have hKept : removable request.sourceKey (retainedEvidence registry request entry) =
      (retiredRecords (supersededOwn request entry.evidence)).drop
        (entry.evidence.length - registry.options.maxEvidencePerCapability) := by
    rw [← retiredRecords_erase, ← retainedEvidence_eq]
    exact removable_of_none fun record hMem => liveOf_retained hMem
  have hNew : removable request.sourceKey
      [appendedRecord registry request cell claim coverage entry] =
      [appendedRecord registry request cell claim coverage entry] := by
    refine List.filter_eq_self.2 fun record hMem => ?_
    rw [List.mem_singleton.1 hMem]
    simp [liveOf, appendedRecord, newRecord, PublicationRequest.sourceKey, isRetired]
  have hSplit : removable request.sourceKey
      (claimedEvidence registry request cell claim coverage entry) =
      (retiredRecords (supersededOwn request entry.evidence)).drop
          (entry.evidence.length - registry.options.maxEvidencePerCapability) ++
        [appendedRecord registry request cell claim coverage entry] := by
    rw [← hKept, ← hNew]
    exact List.filter_append ..
  rw [hSplit, List.map_append, List.map_drop, supersededOwn, retiredRecords_relabel,
    map_publisher_relabel]
  rfl

/-- A claim that finds room erases no more than is removable: what the claims of a
publication erase, it erases and the others after it. -/
theorem erasedBy_claimed (claims : Nat)
    (hRoom : liveEvidenceCount (retainedEvidence registry request entry) <
      registry.options.maxEvidencePerCapability) :
    erasedBy registry.options.maxEvidencePerCapability (claims + 1) entry.evidence.length =
      (entry.evidence.length - registry.options.maxEvidencePerCapability) +
        erasedBy registry.options.maxEvidencePerCapability claims
          (claimedEvidence registry request cell claim coverage entry).length := by
  have hLive : (liveRecords (retainedEvidence registry request entry)).length =
      (liveRecords (supersededOwn request entry.evidence)).length := by
    unfold retainedEvidence
    rw [liveRecords_trim]
    rfl
  have hWhole := length_split (supersededOwn request entry.evidence)
  have hPart := length_split (retainedEvidence registry request entry)
  have hDropped : (retiredRecords (retainedEvidence registry request entry)).length =
      (retiredRecords (supersededOwn request entry.evidence)).length -
        (entry.evidence.length - registry.options.maxEvidencePerCapability) := by
    rw [retainedEvidence_eq, retiredRecords_erase, List.length_drop]
  have hLater : (claimedEvidence registry request cell claim coverage entry).length =
      (retainedEvidence registry request entry).length + 1 := List.length_append
  rw [liveEvidenceCount_eq, hLive] at hRoom
  rw [length_supersededOwn] at hWhole
  unfold erasedBy
  rw [if_neg (Nat.succ_ne_zero _)]
  split <;> omega

end Claims

/-- `Spares` for one publication. -/
def SparesOthers (registry : Registry) (request : PublicationRequest)
    (capability : CapabilityId) (steps : List ApplyStep) (evidence : List EvidenceRecord) :
    Prop :=
  Spares registry.options.maxEvidencePerCapability request.authority.publisher
    request.sourceKey capability steps evidence

/-- A step that supersedes the identity and applies nothing. -/
theorem spares_relabel {evidence : List EvidenceRecord}
    (hOwn : step.relabelsOwn capability = true) (hClaims : step.claims capability = false) :
    SparesOthers registry request capability (step :: steps) evidence ↔
      othersOf request.authority.publisher (supersededOwn request evidence) =
        othersOf request.authority.publisher evidence ∧
      SparesOthers registry request capability steps (supersededOwn request evidence) := by
  have hCount : (step :: steps).countP (ApplyStep.claims capability) =
      steps.countP (ApplyStep.claims capability) :=
    List.countP_cons_of_neg (by simp [hClaims])
  have hTrimmed : (∀ record ∈ (removable request.sourceKey
        (supersededOwn request evidence)).take
        (erasedBy registry.options.maxEvidencePerCapability
          (steps.countP (ApplyStep.claims capability)) (supersededOwn request evidence).length),
      record.publisher = request.authority.publisher) ↔
      ∀ record ∈ (removable request.sourceKey evidence).take
        (erasedBy registry.options.maxEvidencePerCapability
          (steps.countP (ApplyStep.claims capability)) evidence.length),
      record.publisher = request.authority.publisher := by
    rw [length_supersededOwn, supersededOwn, removable_of_none liveOf_relabel,
      retiredRecords_relabel, firstOwn_iff, firstOwn_iff, map_publisher_relabel]
  unfold supersededOwn at hTrimmed ⊢
  rw [othersOf_relabel_iff fun _ => liveOf_live]
  constructor
  · rintro ⟨hLive, hKept⟩
    rw [hCount] at hKept
    refine ⟨hLive (by simp [hOwn]), ⟨fun _ record hMem hLiveOf => ?_, hTrimmed.2 hKept⟩⟩
    rw [liveOf_relabel record hMem] at hLiveOf
    cases hLiveOf
  · rintro ⟨hLive, -, hKept⟩
    refine ⟨fun _ => hLive, ?_⟩
    rw [hCount]
    exact hTrimmed.1 hKept

theorem wanes_supersededOwn (evidence : List EvidenceRecord) :
    Wanes (othersOf request.authority.publisher evidence)
      (othersOf request.authority.publisher (supersededOwn request evidence)) := by
  unfold supersededOwn
  rw [othersOf_relabel]
  exact wanes_relabel _ (fun _ => liveOf_live) _

theorem wanes_retained :
    Wanes (othersOf request.authority.publisher (supersededOwn request entry.evidence))
      (othersOf request.authority.publisher (retainedEvidence registry request entry)) :=
  wanes_sublist ((trimEvidence_sublist _ _).filter _)

/-- A claim for the capability. -/
theorem spares_claim {claim : CapabilityClaim} {coverage : Coverage}
    (hNamed : claim.capability = capability)
    (hRoom : liveEvidenceCount (retainedEvidence registry request entry) <
      registry.options.maxEvidencePerCapability) :
    SparesOthers registry request capability (.applyClaim claim coverage :: steps)
        entry.evidence ↔
      othersOf request.authority.publisher
          (claimedEvidence registry request cell claim coverage entry) =
        othersOf request.authority.publisher entry.evidence ∧
      SparesOthers registry request capability steps
        (claimedEvidence registry request cell claim coverage entry) := by
  have hClaims : (ApplyStep.applyClaim claim coverage).claims capability = true :=
    beq_iff_eq.2 hNamed
  have hOwn : (ApplyStep.applyClaim claim coverage).relabelsOwn capability = true :=
    beq_iff_eq.2 hNamed
  have hTrimmed : (∀ record ∈ (removable request.sourceKey entry.evidence).take
        (erasedBy registry.options.maxEvidencePerCapability
          ((.applyClaim claim coverage :: steps).countP (ApplyStep.claims capability))
          entry.evidence.length), record.publisher = request.authority.publisher) ↔
      (∀ record ∈ (retiredRecords (supersededOwn request entry.evidence)).take
        (entry.evidence.length - registry.options.maxEvidencePerCapability),
        record.publisher = request.authority.publisher) ∧
      ∀ record ∈ (removable request.sourceKey
        (claimedEvidence registry request cell claim coverage entry)).take
        (erasedBy registry.options.maxEvidencePerCapability
          (steps.countP (ApplyStep.claims capability))
          (claimedEvidence registry request cell claim coverage entry).length),
        record.publisher = request.authority.publisher := by
    rw [List.countP_cons_of_pos hClaims, @erasedBy_claimed _ _ cell _ claim coverage _ hRoom,
      firstOwn_iff, firstOwn_iff, firstOwn_iff, firstOwn_add, removable_claimed, supersededOwn,
      retiredRecords_relabel, map_publisher_relabel]
  rw [othersOf_claimed, (wanes_supersededOwn _).same_iff wanes_retained, retainedEvidence_eq,
    othersOf_erase_iff, supersededOwn, othersOf_relabel_iff fun _ => liveOf_live]
  constructor
  · rintro ⟨hLive, hKept⟩
    obtain ⟨hHere, hThere⟩ := hTrimmed.1 hKept
    refine ⟨⟨hLive (by simp [hOwn]), hHere⟩, ⟨fun _ record hMem hLiveOf => ?_, hThere⟩⟩
    rcases List.mem_append.1 hMem with hMem | hMem
    · rw [liveOf_retained hMem] at hLiveOf
      cases hLiveOf
    · rw [List.mem_singleton.1 hMem]
      rfl
  · rintro ⟨⟨hLive, hHere⟩, -, hThere⟩
    exact ⟨fun _ => hLive, hTrimmed.2 ⟨hHere, hThere⟩⟩

/-- A step that has nothing to do with the capability. -/
theorem spares_idle {evidence : List EvidenceRecord}
    (hOwn : step.relabelsOwn capability = false) (hClaims : step.claims capability = false) :
    SparesOthers registry request capability (step :: steps) evidence ↔
      SparesOthers registry request capability steps evidence := by
  have hCount : (step :: steps).countP (ApplyStep.claims capability) =
      steps.countP (ApplyStep.claims capability) :=
    List.countP_cons_of_neg (by simp [hClaims])
  have hAny : (step :: steps).any (ApplyStep.relabelsOwn capability) =
      steps.any (ApplyStep.relabelsOwn capability) := by
    rw [List.any_cons, hOwn, Bool.false_or]
  constructor
  · rintro ⟨hLive, hKept⟩
    rw [hAny] at hLive
    rw [hCount] at hKept
    exact ⟨hLive, hKept⟩
  · rintro ⟨hLive, hKept⟩
    refine ⟨?_, ?_⟩
    · rw [hAny]
      exact hLive
    · rw [hCount]
      exact hKept

/-- One step of a publication without exclusive steps. -/
theorem spares_step (hOk : (step.run registry request cell).2 = .ok ())
    (hShared : step ≠ .supersedeOtherIdentities) (capability : CapabilityId) :
    let before := (cell.entity.entryOf capability).evidence
    let after := ((step.run registry request cell).1.entity.entryOf capability).evidence
    Wanes (othersOf request.authority.publisher before)
      (othersOf request.authority.publisher after) ∧
    (SparesOthers registry request capability (step :: steps) before ↔
      othersOf request.authority.publisher after =
        othersOf request.authority.publisher before ∧
      SparesOthers registry request capability steps after) := by
  have hStep := step_entryOf hOk capability
  have hRoom := @applyClaim_room registry request cell
  dsimp only
  generalize (step.run registry request cell).1.entity.entryOf capability = later at hStep ⊢
  have hIdle : later = cell.entity.entryOf capability →
      step.relabelsOwn capability = false → step.claims capability = false →
      Wanes (othersOf request.authority.publisher (cell.entity.entryOf capability).evidence)
        (othersOf request.authority.publisher later.evidence) ∧
      (SparesOthers registry request capability (step :: steps)
          (cell.entity.entryOf capability).evidence ↔
        othersOf request.authority.publisher later.evidence =
          othersOf request.authority.publisher (cell.entity.entryOf capability).evidence ∧
        SparesOthers registry request capability steps later.evidence) := by
    rintro rfl hOwn hClaims
    refine ⟨Wanes.refl _, ?_⟩
    rw [spares_idle hOwn hClaims]
    exact ⟨fun h => ⟨rfl, h⟩, fun h => h.2⟩
  have hRelabel : later.evidence =
        supersededOwn request (cell.entity.entryOf capability).evidence →
      step.relabelsOwn capability = true → step.claims capability = false →
      Wanes (othersOf request.authority.publisher (cell.entity.entryOf capability).evidence)
        (othersOf request.authority.publisher later.evidence) ∧
      (SparesOthers registry request capability (step :: steps)
          (cell.entity.entryOf capability).evidence ↔
        othersOf request.authority.publisher later.evidence =
          othersOf request.authority.publisher (cell.entity.entryOf capability).evidence ∧
        SparesOthers registry request capability steps later.evidence) := by
    intro hEvidence hOwn hClaims
    rw [hEvidence]
    exact ⟨wanes_supersededOwn _, spares_relabel hOwn hClaims⟩
  cases step with
  | supersedeOtherIdentities => exact absurd rfl hShared
  | countSuperseded => exact hIdle hStep rfl rfl
  | supersedeIdentity =>
      refine hRelabel ?_ rfl rfl
      exact entryStep_relabel (liveOf request.sourceKey)
        (fun hChange => hChange.relabels_own (.inl rfl)) hStep
  | withdrawClaim named =>
      by_cases hNamed : named = capability
      · subst hNamed
        rw [ApplyStep.acts, beq_self_eq_true, Bool.true_and] at hStep
        refine hRelabel ?_ (beq_self_eq_true _) rfl
        exact entryStep_relabel (liveOf request.sourceKey)
          (fun hChange => hChange.relabels_own (.inr ⟨_, rfl⟩)) hStep
      · rw [ApplyStep.acts, beq_eq_false_iff_ne.2 hNamed, Bool.false_and] at hStep
        exact hIdle hStep (beq_eq_false_iff_ne.2 hNamed) rfl
  | applyClaim claim coverage =>
      by_cases hNamed : claim.capability = capability
      · have hRoom := hRoom hOk
        subst hNamed
        rw [ApplyStep.acts, beq_self_eq_true] at hStep
        cases hStep with
        | superseded selects _ => cases selects
        | applied advances =>
            refine ⟨?_, spares_claim rfl hRoom⟩
            show Wanes _ (othersOf _ (claimedEvidence registry request cell claim coverage _))
            rw [othersOf_claimed]
            exact (wanes_supersededOwn _).trans wanes_retained
      · rw [ApplyStep.acts, beq_eq_false_iff_ne.2 hNamed] at hStep
        exact hIdle hStep (beq_eq_false_iff_ne.2 hNamed) (beq_eq_false_iff_ne.2 hNamed)

/-- The loop of stage 10 leaves the records of the others alone exactly when it spares
them. -/
theorem others_kept_iff (hOk : (runSteps registry request cell steps).2 = .ok ())
    (hShared : .supersedeOtherIdentities ∉ steps) (capability : CapabilityId) :
    let before := (cell.entity.entryOf capability).evidence
    let after :=
      ((runSteps registry request cell steps).1.entity.entryOf capability).evidence
    Wanes (othersOf request.authority.publisher before)
      (othersOf request.authority.publisher after) ∧
    (othersOf request.authority.publisher after =
        othersOf request.authority.publisher before ↔
      SparesOthers registry request capability steps before) := by
  induction steps generalizing cell with
  | nil =>
      refine ⟨Wanes.refl _, fun _ => ⟨fun hNone => ?_, ?_⟩, fun _ => rfl⟩
      · cases hNone
      · simp [erasedBy]
  | cons step steps ih =>
      obtain ⟨hStep, hRest⟩ := not_or.1 (mt List.mem_cons.2 hShared)
      have hHere := @spares_step registry request cell step steps
      rw [runSteps] at hOk ⊢
      generalize step.run registry request cell = ran at *
      obtain ⟨next, outcome⟩ := ran
      cases outcome with
      | error e => cases hOk
      | ok u =>
          obtain ⟨hFirst, hSpares⟩ := hHere rfl (Ne.symm hStep) capability
          obtain ⟨hSecond, hKept⟩ := ih hOk hRest
          refine ⟨hFirst.trans hSecond, ?_⟩
          rw [hFirst.same_iff hSecond, hKept, hSpares]

end Steps

/-! ## One commit -/

/-- Only an exclusive grant supersedes the other identities. -/
theorem applySteps_shared (schema : CapabilitySchema) {grant : AuthorityGrant}
    (request : PublicationRequest) (hShared : grant.exclusive = false) :
    ApplyStep.supersedeOtherIdentities ∉ applySteps schema grant request := by
  intro hMem
  generalize hStep : ApplyStep.supersedeOtherIdentities = step at hMem
  cases applySteps_from step hMem with
  | others _ hExclusive => exact absurd (hShared.symm.trans hExclusive) nofun
  | supersession _ _ _ hCounts => rcases hCounts with rfl | rfl <;> cases hStep
  | _ => cases hStep

/-- A commit under a grant that is not exclusive, at an unchanged entity generation, keeps
all records of the other publishers as they are exactly when its steps spare them. -/
theorem publishers_isolated_iff (attempt : Attempt) (hCommitted : attempt.committed = true)
    (hShared : ∀ runtime grant,
      validateRequest attempt.before attempt.request = .ok (runtime, grant) →
      grant.exclusive = false)
    (hSame : ∀ held, attempt.before.findEntity attempt.request.entity = some held →
      held.currentGeneration = attempt.request.entityGeneration) :
    (∀ entity capability,
      othersOf attempt.request.authority.publisher
          (attempt.after.entryOf entity capability).evidence =
        othersOf attempt.request.authority.publisher
          (attempt.before.entryOf entity capability).evidence) ↔
    ∀ capability, SparesOthers attempt.before attempt.request capability
      (publicationSteps attempt.before attempt.request)
      (attempt.before.entryOf attempt.request.entity capability).evidence := by
  obtain ⟨result, ⟨c⟩⟩ := attempt.committed_stages hCommitted
  have hSteps : .supersedeOtherIdentities ∉ publicationSteps attempt.before attempt.request := by
    rw [c.publicationSteps_eq]
    exact applySteps_shared _ _ (hShared _ _ c.valid)
  have hOptions : c.bound.options = attempt.before.options := by
    have hControl := bindEntity_control attempt.before attempt.request
    rw [c.binds] at hControl
    exact hControl.options
  have hEntry : ∀ capability,
      othersOf attempt.request.authority.publisher
          (attempt.after.entryOf attempt.request.entity capability).evidence =
        othersOf attempt.request.authority.publisher
          (attempt.before.entryOf attempt.request.entity capability).evidence ↔
      SparesOthers attempt.before attempt.request capability
        (publicationSteps attempt.before attempt.request)
        (attempt.before.entryOf attempt.request.entity capability).evidence := by
    intro capability
    obtain ⟨-, hKept⟩ := others_kept_iff c.runs hSteps capability
    rw [← c.entryOf_after] at hKept
    rw [c.entryOf_before hSame, SparesOthers, ← hOptions]
    exact hKept
  constructor
  · exact fun hKept capability => (hEntry capability).1 (hKept _ capability)
  · intro hSpares entity capability
    by_cases hEntity : attempt.request.entity = entity
    · rw [← hEntity]
      exact (hEntry capability).2 (hSpares capability)
    · unfold Registry.entryOf
      rw [Attempt.after, publish_other attempt.before hEntity]

/-! ### A shared source -/

namespace Sample

def otherPublisher : PublisherId := token _ "publisher-b"

/-- Another publisher registers under the boot of the first and publishes the same claim,
for the same source. -/
def intrusion : Attempt where
  before := afterRun {} (setup ++
    [.registerPublisher otherPublisher scope bootOne,
     .publish (publication bootOne "attempt-1" 1 0 (claim .supported .processBound))])
  request :=
    { publication bootOne "attempt-2" 1 1 (claim .unsupported .processBound) with
      authority :=
        { scope, publisher := otherPublisher, workerBoot := bootOne, source,
          sourceGeneration := 1 } }

/-- Another publisher registers under a boot of its own and publishes for its own source. -/
def neighbouring : Attempt where
  before := afterRun {} (setup ++
    [.registerPublisher otherPublisher scope bootTwo,
     .publish (publication bootOne "attempt-1" 1 0 (claim .supported .processBound))])
  request :=
    { publication bootTwo "attempt-2" 1 1 (claim .unsupported .processBound) with
      authority :=
        { scope, publisher := otherPublisher, workerBoot := bootTwo, source := token _ "source-b",
          sourceGeneration := 1 } }

end Sample

theorem grant_shared {attempt : Attempt}
    (h : (validateRequest attempt.before attempt.request).toOption.map (·.2.exclusive) =
      some false) (runtime : PublisherRuntime) (grant : AuthorityGrant)
    (hValid : validateRequest attempt.before attempt.request = .ok (runtime, grant)) :
    grant.exclusive = false := by
  rw [hValid] at h
  exact Option.some.inj h

theorem neighbour_isolated_iff :
    (othersOf Sample.otherPublisher (Sample.neighbouring.before.entryOf Sample.entity
      Sample.capability).evidence).map EvidenceRecord.currentness = [.current] ∧
    (othersOf Sample.otherPublisher (Sample.neighbouring.after.entryOf Sample.entity
      Sample.capability).evidence).map EvidenceRecord.currentness = [.current] ∧
    ((∀ entity capability,
      othersOf Sample.otherPublisher
          (Sample.neighbouring.after.entryOf entity capability).evidence =
        othersOf Sample.otherPublisher
          (Sample.neighbouring.before.entryOf entity capability).evidence) ↔
    ∀ capability, SparesOthers Sample.neighbouring.before Sample.neighbouring.request
      capability (publicationSteps Sample.neighbouring.before Sample.neighbouring.request)
      (Sample.neighbouring.before.entryOf Sample.entity capability).evidence) := by
  obtain ⟨hBefore, hAfter, hCommitted, hShared, hCurrent⟩ :
      (othersOf Sample.otherPublisher (Sample.neighbouring.before.entryOf Sample.entity
        Sample.capability).evidence).map EvidenceRecord.currentness = [.current] ∧
      (othersOf Sample.otherPublisher (Sample.neighbouring.after.entryOf Sample.entity
        Sample.capability).evidence).map EvidenceRecord.currentness = [.current] ∧
      Sample.neighbouring.committed = true ∧
      (validateRequest Sample.neighbouring.before Sample.neighbouring.request).toOption.map
        (·.2.exclusive) = some false ∧
      (Sample.neighbouring.before.findEntity Sample.entity).map
        EntityState.currentGeneration = some 1 := by decide +kernel
  refine ⟨hBefore, hAfter, publishers_isolated_iff Sample.neighbouring hCommitted
    (grant_shared hShared) fun held hHeld => ?_⟩
  rw [show Sample.neighbouring.before.findEntity Sample.entity = some held from hHeld] at hCurrent
  exact Option.some.inj hCurrent

/-- The claim of the second publisher supersedes that of the first. -/
theorem shared_source_supersedes :
    Sample.intrusion.committed = true ∧
    (validateRequest Sample.intrusion.before Sample.intrusion.request).toOption.map
      (·.2.exclusive) = some false ∧
    (Sample.intrusion.before.findEntity Sample.entity).map EntityState.currentGeneration =
      some Sample.intrusion.request.entityGeneration ∧
    (othersOf Sample.otherPublisher (Sample.intrusion.before.entryOf Sample.entity
      Sample.capability).evidence).map EvidenceRecord.currentness = [.current] ∧
    (othersOf Sample.otherPublisher (Sample.intrusion.after.entryOf Sample.entity
      Sample.capability).evidence).map EvidenceRecord.currentness = [.superseded] := by
  decide +kernel

end FabricCapability.Ports

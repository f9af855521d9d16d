import FabricCapability.Verified.Recency
import FabricCapability.Ports.Calls
import FabricCapability.Ports.EntityRules

/-!
# The journal over a run

The journal is a bounded map of entries, a queue of the publication identifiers in the order
of their writes, and an index of the attempts.  A publication that is answered writes one
entry, unless its identifiers are missing; a load empties the journal.

`log` is what the journal would hold without a bound: all entries since the last load.
`KeepsLatest` says that the journal is the end of the log.  It holds as long as each entry
meets `Journal.Admits`; the map, the queue and the index drift apart at the first one that
does not.

## Main results

* `journal_of_run`: the journal is what the recorded entries make of it.
* `keepsLatest_record_iff`: one entry keeps the end of the log exactly when it is admitted.
* `journal_keeps_latest_iff`: over a run, at every moment, exactly when each entry is.
-/

namespace FabricCapability.Ports

open FabricCapability.Verified.KeyedList
open FabricCapability.Verified.Recency
open FabricCapability.Verified.Runs

/-! ## What the journal should be -/

/-- `ExplainReplay`, without its locks. -/
def explainReplay (registry : Registry) (attempt : MutationAttemptId) : Outcome Explanation :=
  match lookup Prod.fst attempt registry.journal.attempts with
  | none =>
      failure .notFound
        (txt "no retained publication used this mutation attempt identifier") attempt.value
  | some found => explainPublication registry found.2

/-- The publications of a log. -/
def published (log : List JournalEntry) : List PublicationId :=
  log.map JournalEntry.publication

/-- The journal map. -/
def Journal.held (journal : Journal) (publication : PublicationId) : Option JournalEntry :=
  lookup JournalEntry.publication publication journal.entries

/-- The journal is the end of the log: the last entry of each of the `bound` latest
publications, under the same identifiers in the map, the queue and the index. -/
structure KeepsLatest (bound : Nat) (log : List JournalEntry) (journal : Journal) : Prop where
  /-- The map and the queue refer to the same publications. -/
  queued : ∀ publication,
    publication ∈ journal.order ↔ (journal.held publication).isSome = true
  entries_le : journal.entries.length ≤ bound
  order_le : journal.order.length ≤ bound
  /-- The map holds the last entries of the latest publications. -/
  retained : ∀ publication,
    journal.held publication =
      if publication ∈ latest bound (published log) then
        lookup JournalEntry.publication publication log.reverse
      else none
  /-- The index refers to retained entries. -/
  indexed : ∀ entry ∈ journal.attempts, (journal.held entry.2).isSome = true
  /-- `ExplainPublication` answers for the latest publications. -/
  explained : ∀ registry : Registry, registry.journal = journal → ∀ publication,
    (explainPublication registry publication).isOk = true ↔
      publication ∈ latest bound (published log)
  /-- `ExplainReplay` answers for an attempt whose last publication is one of them. -/
  replayed : ∀ registry : Registry, registry.journal = journal → ∀ attempt,
    (explainReplay registry attempt).isOk = true ↔
      ∃ entry, lookup JournalEntry.attempt attempt log.reverse = some entry ∧
        entry.publication ∈ latest bound (published log)

/-- The entries that keep a journal the end of its log.  Before the map is full, its queue
must have room, which a repeated publication takes twice.  Then the publication must be the
oldest one in the queue or a new one; and the attempt of the oldest one, which the index does
not forget, must be the attempt of the entry. -/
def Journal.Admits (bound : Nat) (journal : Journal) (entry : JournalEntry) : Prop :=
  if journal.entries.length < bound then journal.order.length < bound
  else
    match journal.order with
    | [] => False
    | oldest :: rest =>
        entry.publication = oldest ∨
          (entry.publication ∉ rest ∧
            ∀ held ∈ journal.attempts, held.2 = oldest → held.1 = entry.attempt)

instance (bound : Nat) (journal : Journal) (entry : JournalEntry) :
    Decidable (journal.Admits bound entry) := by
  unfold Journal.Admits
  cases journal.order <;> infer_instance

/-! ## What always holds -/

/-- The queue is a tail of the writes, and the map and the index hold the last entries. -/
structure Journal.Follows (log : List JournalEntry) (journal : Journal) : Prop where
  distinct : (journal.entries.map JournalEntry.publication).Nodup
  distinctAttempts : (journal.attempts.map Prod.fst).Nodup
  tail : journal.order <:+ published log
  queued : ∀ publication, (journal.held publication).isSome = true →
    publication ∈ journal.order
  last : ∀ publication entry, journal.held publication = some entry →
    lookup JournalEntry.publication publication log.reverse = some entry
  attempts : ∀ attempt,
    lookup Prod.fst attempt journal.attempts =
      (lookup JournalEntry.attempt attempt log.reverse).map fun entry =>
        (entry.attempt, entry.publication)

theorem follows_empty : Journal.Follows [] {} where
  distinct := List.nodup_nil
  distinctAttempts := List.nodup_nil
  tail := List.suffix_refl _
  queued _ h := by cases h
  last _ _ h := by cases h
  attempts _ := rfl

section Record

variable {bound : Nat} {log : List JournalEntry} {journal : Journal} {entry : JournalEntry}

/-- The journal without the oldest publication. -/
def Journal.evict (journal : Journal) : Journal :=
  match journal.order with
  | [] => journal
  | oldest :: order =>
      { journal with
        order
        entries := journal.entries.filter fun held => held.publication ≠ oldest }

/-- The journal with one more entry. -/
def Journal.write (journal : Journal) (entry : JournalEntry) : Journal :=
  { entries := upsert JournalEntry.publication entry journal.entries
    order := journal.order ++ [entry.publication]
    attempts := upsert Prod.fst (entry.attempt, entry.publication) journal.attempts }

theorem record_eq : journal.record bound entry =
    (if journal.entries.length ≥ bound then journal.evict else journal).write entry := rfl

theorem held_write (publication : PublicationId) :
    (journal.write entry).held publication =
      if entry.publication = publication then some entry else journal.held publication := by
  show lookup _ publication (upsert _ entry journal.entries) = _
  split
  · rename_i hSame
    rw [← hSame]
    exact lookup_upsert_self
  · rename_i hOther
    exact lookup_upsert_ne hOther

theorem lookup_log (publication : PublicationId) :
    lookup JournalEntry.publication publication (log ++ [entry]).reverse =
      if entry.publication = publication then some entry
      else lookup JournalEntry.publication publication log.reverse := by
  rw [List.reverse_append, List.reverse_singleton, List.singleton_append, lookup_cons]

theorem held_evict {oldest : PublicationId} {rest : List PublicationId}
    (hOrder : journal.order = oldest :: rest) (publication : PublicationId) :
    journal.evict.held publication =
      if publication = oldest then none else journal.held publication := by
  unfold Journal.evict
  rw [hOrder]
  dsimp only
  split
  · rename_i hOldest
    show lookup _ publication _ = none
    rw [lookup_eq_none, List.mem_map]
    rintro ⟨held, hMem, hKey⟩
    rw [List.mem_filter] at hMem
    exact (of_decide_eq_true hMem.2) (hKey.trans hOldest)
  · rename_i hNe
    refine lookup_filter fun held _ hKey => decide_eq_true ?_
    rw [hKey]
    exact hNe

/-- Eviction forgets an entry and the oldest write. -/
theorem Journal.Follows.evict (h : journal.Follows log) : journal.evict.Follows log := by
  cases hOrder : journal.order with
  | nil =>
      unfold Journal.evict
      rw [hOrder]
      exact h
  | cons oldest rest =>
      have hEvicted : journal.evict =
          { journal with
            order := rest
            entries := journal.entries.filter fun held => held.publication ≠ oldest } := by
        unfold Journal.evict
        rw [hOrder]
      have hHeld := held_evict hOrder
      refine ⟨?_, ?_, ?_, ?_, ?_, ?_⟩
      · rw [hEvicted]
        exact h.distinct.sublist ((List.filter_sublist ..).map _)
      · rw [hEvicted]
        exact h.distinctAttempts
      · rw [hEvicted]
        exact List.IsSuffix.trans (List.suffix_cons oldest rest) (hOrder ▸ h.tail)
      · intro publication hSome
        rw [hHeld] at hSome
        split at hSome
        · cases hSome
        · rename_i hNe
          have hQueued := h.queued publication hSome
          rw [hOrder] at hQueued
          rw [hEvicted]
          exact (List.mem_cons.1 hQueued).resolve_left hNe
      · intro publication entry hFound
        rw [hHeld] at hFound
        split at hFound
        · cases hFound
        · exact h.last publication entry hFound
      · intro attempt
        rw [hEvicted]
        exact h.attempts attempt

theorem Journal.Follows.write (h : journal.Follows log) :
    (journal.write entry).Follows (log ++ [entry]) := by
  refine ⟨nodup_upsert h.distinct, nodup_upsert h.distinctAttempts, ?_, ?_, ?_, ?_⟩
  · obtain ⟨before, hTail⟩ := h.tail
    refine ⟨before, ?_⟩
    show before ++ (journal.order ++ [entry.publication]) = published (log ++ [entry])
    rw [← List.append_assoc, hTail]
    unfold published
    rw [List.map_append, List.map_singleton]
  · intro publication hSome
    rw [held_write] at hSome
    show publication ∈ journal.order ++ [entry.publication]
    split at hSome
    · rename_i hSame
      rw [← hSame]
      exact List.mem_append_right _ (List.mem_singleton_self _)
    · exact List.mem_append_left _ (h.queued publication hSome)
  · intro publication found hFound
    rw [held_write] at hFound
    rw [lookup_log]
    split at hFound
    · rename_i hSame
      rw [if_pos hSame]
      exact hFound
    · rename_i hOther
      rw [if_neg hOther]
      exact h.last publication found hFound
  · intro attempt
    show lookup _ attempt (upsert Prod.fst (entry.attempt, entry.publication) _) = _
    rw [List.reverse_append, List.reverse_singleton, List.singleton_append, lookup_cons]
    split
    · rename_i hSame
      rw [← hSame]
      exact @lookup_upsert_self _ _ _ Prod.fst (entry.attempt, entry.publication) _
    · rename_i hOther
      rw [← h.attempts attempt]
      exact lookup_upsert_ne hOther

theorem Journal.Follows.record (h : journal.Follows log) :
    (journal.record bound entry).Follows (log ++ [entry]) := by
  rw [record_eq]
  split
  · exact h.evict.write
  · exact h.write

/-! ## One entry -/

theorem mem_published {publication : PublicationId} :
    publication ∈ published log ↔
      (lookup JournalEntry.publication publication log.reverse).isSome = true := by
  rw [lookup_isSome, List.map_reverse, List.mem_reverse]
  exact Iff.rfl

theorem explainPublication_isOk (registry : Registry) (publication : PublicationId) :
    (explainPublication registry publication).isOk =
      (registry.journal.held publication).isSome := by
  unfold explainPublication Journal.held
  cases lookup JournalEntry.publication publication registry.journal.entries <;> rfl

/-- What is retained is what is latest. -/
theorem held_iff_latest
    (hRetained : ∀ publication, journal.held publication =
      if publication ∈ latest bound (published log) then
        lookup JournalEntry.publication publication log.reverse
      else none) (publication : PublicationId) :
    (journal.held publication).isSome = true ↔ publication ∈ latest bound (published log) := by
  rw [hRetained]
  split
  · rename_i hLatest
    exact ⟨fun _ => hLatest, fun _ => mem_published.1 (mem_of_mem_latest hLatest)⟩
  · rename_i hOld
    constructor
    · intro hSome
      cases hSome
    · intro hLatest
      exact absurd hLatest hOld

/-- The answers follow from the tables. -/
theorem keepsLatest_of_tables (hFollows : journal.Follows log)
    (hQueued : ∀ publication,
      publication ∈ journal.order ↔ (journal.held publication).isSome = true)
    (hEntries : journal.entries.length ≤ bound) (hOrder : journal.order.length ≤ bound)
    (hRetained : ∀ publication, journal.held publication =
      if publication ∈ latest bound (published log) then
        lookup JournalEntry.publication publication log.reverse
      else none)
    (hIndexed : ∀ entry ∈ journal.attempts, (journal.held entry.2).isSome = true) :
    KeepsLatest bound log journal := by
  have hLatest := held_iff_latest hRetained
  refine ⟨hQueued, hEntries, hOrder, hRetained, hIndexed, ?_, ?_⟩
  · rintro registry rfl publication
    rw [explainPublication_isOk]
    exact hLatest publication
  · rintro registry rfl attempt
    have hAttempt := hFollows.attempts attempt
    unfold explainReplay
    cases hLast : lookup JournalEntry.attempt attempt log.reverse with
    | none =>
        rw [hLast, Option.map_none] at hAttempt
        rw [hAttempt]
        constructor
        · intro hOk
          cases hOk
        · rintro ⟨entry, hEntry, -⟩
          cases hEntry
    | some entry =>
        rw [hLast, Option.map_some] at hAttempt
        rw [hAttempt]
        dsimp only
        rw [explainPublication_isOk, hLatest]
        constructor
        · intro hMem
          exact ⟨entry, rfl, hMem⟩
        · rintro ⟨other, hOther, hMem⟩
          rw [Option.some.injEq] at hOther
          exact hOther ▸ hMem

/-- The keys of the map are the latest publications. -/
theorem KeepsLatest.keys_perm (h : KeepsLatest bound log journal)
    (hFollows : journal.Follows log) :
    (journal.entries.map JournalEntry.publication).Perm (latest bound (published log)) := by
  rw [List.perm_ext_iff_of_nodup hFollows.distinct nodup_latest]
  intro publication
  rw [← lookup_isSome]
  exact held_iff_latest h.retained publication

theorem retained_write (hRetained : ∀ publication, publication ≠ entry.publication →
      journal.held publication =
        if publication ∈ latest bound (published (log ++ [entry])) then
          lookup JournalEntry.publication publication log.reverse
        else none)
    (hNew : entry.publication ∈ latest bound (published (log ++ [entry])))
    (publication : PublicationId) :
    (journal.write entry).held publication =
      if publication ∈ latest bound (published (log ++ [entry])) then
        lookup JournalEntry.publication publication (log ++ [entry]).reverse
      else none := by
  rw [held_write, lookup_log]
  by_cases hSame : entry.publication = publication
  · rw [if_pos hSame, if_pos hSame, if_pos (hSame ▸ hNew)]
  · rw [if_neg hSame, if_neg hSame]
    exact hRetained publication (Ne.symm hSame)

theorem queued_write
    (hQueued : ∀ publication, publication ≠ entry.publication →
      (publication ∈ journal.order ↔ (journal.held publication).isSome = true))
    (publication : PublicationId) :
    publication ∈ (journal.write entry).order ↔
      ((journal.write entry).held publication).isSome = true := by
  rw [held_write]
  show publication ∈ journal.order ++ [entry.publication] ↔ _
  rw [List.mem_append, List.mem_singleton]
  by_cases hSame : entry.publication = publication
  · rw [if_pos hSame]
    exact ⟨fun _ => rfl, fun _ => .inr hSame.symm⟩
  · rw [if_neg hSame, ← hQueued publication (Ne.symm hSame)]
    constructor
    · rintro (hMem | hEq)
      · exact hMem
      · exact absurd hEq.symm hSame
    · exact .inl

/-- The index after a write: the new pair, and the old ones of other attempts. -/
theorem mem_attempts_write (hFollows : journal.Follows log)
    {pair : MutationAttemptId × PublicationId} :
    pair ∈ (journal.write entry).attempts ↔
      pair = (entry.attempt, entry.publication) ∨
        (pair ∈ journal.attempts ∧ pair.1 ≠ entry.attempt) := by
  constructor
  · intro hMem
    have hNodup : ((journal.write entry).attempts.map Prod.fst).Nodup :=
      nodup_upsert hFollows.distinctAttempts
    have hFound := lookup_of_mem hNodup hMem
    by_cases hSame : pair.1 = entry.attempt
    · have hNew : lookup Prod.fst pair.1 (journal.write entry).attempts =
          some (entry.attempt, entry.publication) := by
        rw [hSame]
        exact @lookup_upsert_self _ _ _ Prod.fst (entry.attempt, entry.publication) _
      rw [hFound, Option.some.injEq] at hNew
      exact .inl hNew
    · rcases mem_upsert hMem with rfl | hOld
      · exact absurd rfl hSame
      · exact .inr ⟨hOld, hSame⟩
  · rintro (rfl | ⟨hOld, hNe⟩)
    · exact mem_upsert_self
    · exact mem_upsert_of_ne hOld hNe

theorem published_concat : published (log ++ [entry]) = published log ++ [entry.publication] := by
  unfold published
  rw [List.map_append, List.map_singleton]

/-- Before the map is full, the queue must have room. -/
theorem keepsLatest_spare_iff (hFollows : journal.Follows log)
    (h : KeepsLatest bound log journal) (hSpare : journal.entries.length < bound) :
    KeepsLatest bound (log ++ [entry]) (journal.record bound entry) ↔
      journal.order.length < bound := by
  have hKeys := (h.keys_perm hFollows).length_eq
  rw [List.length_map, length_latest] at hKeys
  have hAll : latest bound (published log) = (published log).dedup := latest_of_le (by omega)
  have hAllNext : latest bound (published (log ++ [entry])) =
      (published (log ++ [entry])).dedup := by
    refine latest_of_le ?_
    have hStep := @length_dedup_concat_le _ _ (published log) entry.publication
    rw [published_concat]
    omega
  rw [record_eq, if_neg (Nat.not_le.2 hSpare)]
  constructor
  · intro hNext
    have hOrder := hNext.order_le
    rw [Journal.write, List.length_append, List.length_singleton] at hOrder
    omega
  · intro hRoom
    refine keepsLatest_of_tables hFollows.write
      (queued_write fun publication _ => h.queued publication) ?_ ?_
      (retained_write (fun publication hNe => ?_) ?_) ?_
    · exact Nat.le_trans length_upsert_le hSpare
    · rw [Journal.write, List.length_append, List.length_singleton]
      omega
    · rw [h.retained, hAll, hAllNext, published_concat]
      simp only [List.mem_dedup, List.mem_append, List.mem_singleton, hNe, or_false]
    · rw [hAllNext, published_concat, List.mem_dedup]
      exact List.mem_append_right _ (List.mem_singleton_self _)
    · intro pair hPair
      rw [held_write]
      rcases (mem_attempts_write hFollows).1 hPair with rfl | ⟨hOld, -⟩
      · rw [if_pos rfl]
        rfl
      · split
        · rfl
        · exact h.indexed pair hOld

/-- A full map and its queue list the same publications, each once. -/
theorem KeepsLatest.order_full (h : KeepsLatest bound log journal)
    (hFollows : journal.Follows log) (hFull : bound ≤ journal.entries.length) :
    journal.order.Nodup ∧ journal.order.length = bound := by
  have hSub : journal.entries.map JournalEntry.publication ⊆ journal.order := by
    intro publication hMem
    exact hFollows.queued publication (lookup_isSome.2 hMem)
  have hSubperm := List.Nodup.subperm hFollows.distinct hSub
  have hLength := hSubperm.length_le
  rw [List.length_map] at hLength
  have hOrder := h.order_le
  have hPerm := hSubperm.perm_of_length_le (by rw [List.length_map]; omega)
  exact ⟨hPerm.nodup_iff.1 hFollows.distinct, by omega⟩

/-- The queue after the oldest publication made room, without a publication twice, lists
the latest publications. -/
theorem latest_evicted {oldest : PublicationId} {rest : List PublicationId}
    (hFollows : journal.Follows log) (hOrder : journal.order = oldest :: rest)
    (hNodup : journal.order.Nodup) (hLength : journal.order.length = bound)
    (hNew : entry.publication ∉ rest) :
    latest bound (published (log ++ [entry])) = rest ++ [entry.publication] := by
  rw [hOrder] at hNodup hLength
  refine latest_of_suffix ?_ ?_ ?_
  · rw [published_concat]
    obtain ⟨before, hTail⟩ := hFollows.tail
    refine ⟨before ++ [oldest], ?_⟩
    rw [← hTail, hOrder]
    simp only [List.append_assoc, List.cons_append, List.nil_append]
  · rw [List.nodup_append]
    refine ⟨(List.nodup_cons.1 hNodup).2, List.nodup_singleton _, ?_⟩
    rintro publication hMem other hOther rfl
    rw [List.mem_singleton] at hOther
    exact hNew (hOther ▸ hMem)
  · rw [List.length_append, List.length_singleton]
    exact hLength

theorem KeepsLatest.length_evict_lt {oldest : PublicationId} {rest : List PublicationId}
    (h : KeepsLatest bound log journal) (hOrder : journal.order = oldest :: rest) :
    journal.evict.entries.length < journal.entries.length := by
  have hHeld := (h.queued oldest).1 (hOrder ▸ List.mem_cons_self ..)
  obtain ⟨held, hFound⟩ := Option.isSome_iff_exists.1 hHeld
  unfold Journal.evict
  rw [hOrder]
  refine List.length_filter_lt_length_iff_exists.2 ⟨held, lookup_mem hFound, ?_⟩
  simp [lookup_key hFound]

/-- A publication that is retained, and not as the oldest one, shrinks a full map. -/
theorem not_keepsLatest_of_repeated {oldest : PublicationId} {rest : List PublicationId}
    (hFollows : journal.Follows log) (h : KeepsLatest bound log journal)
    (hFull : bound ≤ journal.entries.length) (hOrder : journal.order = oldest :: rest)
    (hRepeated : entry.publication ∈ rest) :
    ¬KeepsLatest bound (log ++ [entry]) (journal.record bound entry) := by
  obtain ⟨hNodup, hLength⟩ := h.order_full hFollows hFull
  rw [hOrder, List.nodup_cons] at hNodup
  intro hNext
  rw [record_eq, if_pos hFull] at hNext
  have hKeys := (h.keys_perm hFollows).length_eq
  have hKeysNext := (hNext.keys_perm hFollows.evict.write).length_eq
  rw [List.length_map, length_latest] at hKeys hKeysNext
  have hGrows := @length_dedup_le_concat _ _ (published log) entry.publication
  rw [← published_concat] at hGrows
  -- the oldest entry left, and no key came for it
  have hOldest : journal.evict.held entry.publication ≠ none := by
    have hNe : entry.publication ≠ oldest := by
      intro hEq
      exact hNodup.1 (hEq ▸ hRepeated)
    rw [held_evict hOrder, if_neg hNe]
    have hSome := (h.queued entry.publication).1 (hOrder ▸ List.mem_cons_of_mem _ hRepeated)
    intro hNone
    rw [hNone] at hSome
    cases hSome
  have hSame : (journal.evict.write entry).entries.length = journal.evict.entries.length := by
    refine length_upsert_of_mem (lookup_isSome.1 ?_)
    exact Option.ne_none_iff_isSome.1 hOldest
  have hShrunk := h.length_evict_lt hOrder
  have hBound := h.entries_le
  omega

/-- Once the map is full, the publication must be the oldest one or a new one; then the
index must not be left with the publication that made room. -/
theorem keepsLatest_full_iff {oldest : PublicationId} {rest : List PublicationId}
    (hFollows : journal.Follows log) (h : KeepsLatest bound log journal)
    (hFull : bound ≤ journal.entries.length) (hOrder : journal.order = oldest :: rest) :
    KeepsLatest bound (log ++ [entry]) (journal.record bound entry) ↔
      entry.publication = oldest ∨
        (entry.publication ∉ rest ∧
          ∀ held ∈ journal.attempts, held.2 = oldest → held.1 = entry.attempt) := by
  obtain ⟨hNodup, hLength⟩ := h.order_full hFollows hFull
  have hNodupRest := hNodup
  rw [hOrder, List.nodup_cons] at hNodupRest
  by_cases hRepeated : entry.publication ∈ rest
  · have hNot := not_keepsLatest_of_repeated hFollows h hFull hOrder hRepeated
    constructor
    · intro hNext
      exact absurd hNext hNot
    · rintro (hOldest | ⟨hNew, -⟩)
      · exact absurd (hOldest ▸ hRepeated) hNodupRest.1
      · exact absurd hRepeated hNew
  · have hEvicted := held_evict hOrder
    have hAttempts : journal.evict.attempts = journal.attempts := by
      rw [Journal.evict, hOrder]
    rw [record_eq, if_pos hFull]
    constructor
    · intro hNext
      by_cases hOldest : entry.publication = oldest
      · exact .inl hOldest
      · refine .inr ⟨hRepeated, fun pair hPair hGone => ?_⟩
        by_contra hAttempt
        have hIndexed := hNext.indexed pair
          ((mem_attempts_write hFollows.evict).2 (.inr ⟨hAttempts ▸ hPair, hAttempt⟩))
        rw [hGone, held_write, if_neg hOldest, hEvicted, if_pos rfl] at hIndexed
        cases hIndexed
    · intro hAdmits
      have hLatest := latest_evicted hFollows hOrder hNodup hLength hRepeated
      have hBefore : latest bound (published log) = oldest :: rest := by
        rw [← hOrder]
        exact latest_of_suffix hFollows.tail hNodup hLength
      have hRest : journal.evict.order = rest := by
        rw [Journal.evict, hOrder]
      rw [hOrder, List.length_cons] at hLength
      refine keepsLatest_of_tables hFollows.evict.write
        (queued_write fun publication _ => ?_) ?_ ?_
        (retained_write (fun publication hNe => ?_) ?_) ?_
      · rw [hRest, hEvicted]
        split
        · rename_i hOldest
          constructor
          · intro hMem
            exact absurd (hOldest ▸ hMem) hNodupRest.1
          · intro hSome
            cases hSome
        · rename_i hOther
          rw [← h.queued, hOrder, List.mem_cons]
          exact ⟨.inr, fun hMem => hMem.resolve_left hOther⟩
      · have hShrunk := h.length_evict_lt hOrder
        have hBound := h.entries_le
        exact Nat.le_trans length_upsert_le (by omega)
      · rw [Journal.write, hRest, List.length_append, List.length_singleton]
        omega
      · rw [hLatest, hEvicted, h.retained, hBefore]
        simp only [List.mem_append, List.mem_cons, List.not_mem_nil, hNe, or_false]
        split
        · rename_i hOldest
          rw [if_neg (hOldest ▸ hNodupRest.1)]
        · rename_i hOther
          simp only [hOther, false_or]
      · rw [hLatest]
        exact List.mem_append_right _ (List.mem_singleton_self _)
      · intro pair hPair
        rw [held_write]
        rcases (mem_attempts_write hFollows.evict).1 hPair with rfl | ⟨hOld, hAttempt⟩
        · rw [if_pos rfl]
          rfl
        · split
          · rfl
          · rename_i hOther
            have hHeld := hAttempts ▸ hOld
            rw [hEvicted]
            split
            · rename_i hGone
              rcases hAdmits with hOldest | ⟨-, hForgets⟩
              · exact absurd (hOldest.trans hGone.symm) hOther
              · exact absurd (hForgets pair hHeld hGone) hAttempt
            · exact h.indexed pair hHeld

/-- One entry keeps the journal the end of its log exactly when it is admitted. -/
theorem keepsLatest_record_iff (hFollows : journal.Follows log)
    (h : KeepsLatest bound log journal) :
    KeepsLatest bound (log ++ [entry]) (journal.record bound entry) ↔
      journal.Admits bound entry := by
  unfold Journal.Admits
  split
  · rename_i hSpare
    exact keepsLatest_spare_iff hFollows h hSpare
  · rename_i hFull
    cases hOrder : journal.order with
    | nil =>
        -- the bound is zero, and one entry is too many
        constructor
        · intro hNext
          have hOne := hNext.entries_le
          have hEmpty := (h.order_full hFollows (Nat.not_lt.1 hFull)).2
          have hHeld := (hNext.queued entry.publication).1 (by
            rw [record_eq]
            exact List.mem_append_right _ (List.mem_singleton_self _))
          obtain ⟨held, hFound⟩ := Option.isSome_iff_exists.1 hHeld
          have hPositive := List.length_pos_of_mem (lookup_mem hFound)
          rw [hOrder, List.length_nil] at hEmpty
          omega
        · exact False.elim
    | cons oldest rest => exact keepsLatest_full_iff hFollows h (Nat.not_lt.1 hFull) hOrder

end Record

/-! ## Any sequence of entries -/

/-- What happens to the journal. -/
inductive JournalEvent where
  | recorded (entry : JournalEntry)
  /-- A load. -/
  | cleared

def Journal.step (bound : Nat) (journal : Journal) : JournalEvent → Journal
  | .recorded entry => journal.record bound entry
  | .cleared => {}

/-- The entries since the last load. -/
def logStep (log : List JournalEntry) : JournalEvent → List JournalEntry
  | .recorded entry => log ++ [entry]
  | .cleared => []

def Journal.AdmitsEvent (bound : Nat) (journal : Journal) : JournalEvent → Prop
  | .recorded entry => journal.Admits bound entry
  | .cleared => True

section Events

variable {bound : Nat} {log : List JournalEntry} {journal : Journal}

theorem keepsLatest_empty : KeepsLatest bound [] {} := by
  refine keepsLatest_of_tables follows_empty (fun publication => ?_) (Nat.zero_le _)
    (Nat.zero_le _) (fun publication => ?_) (fun entry hMem => ?_)
  · constructor
    · intro hMem
      cases hMem
    · intro hSome
      cases hSome
  · have hNone : publication ∉ latest bound (published []) := by
      intro hMem
      cases mem_of_mem_latest hMem
    rw [if_neg hNone]
    rfl
  · cases hMem

theorem follows_step (h : journal.Follows log) (event : JournalEvent) :
    (journal.step bound event).Follows (logStep log event) := by
  cases event with
  | recorded entry => exact h.record
  | cleared => exact follows_empty

theorem keepsLatest_step_iff (hFollows : journal.Follows log)
    (h : KeepsLatest bound log journal) (event : JournalEvent) :
    KeepsLatest bound (logStep log event) (journal.step bound event) ↔
      journal.AdmitsEvent bound event := by
  cases event with
  | recorded entry => exact keepsLatest_record_iff hFollows h
  | cleared => exact ⟨fun _ => trivial, fun _ => keepsLatest_empty⟩

/-- The journal is the end of the log at every moment exactly when each entry is admitted. -/
theorem keepsLatest_events_iff {events : List JournalEvent} (hFollows : journal.Follows log)
    (h : KeepsLatest bound log journal) :
    (∀ past, past <+: events →
      KeepsLatest bound (run logStep log past) (run (Journal.step bound) journal past)) ↔
        Guarded (Journal.step bound) (Journal.AdmitsEvent bound) journal events := by
  induction events generalizing log journal with
  | nil =>
      constructor
      · exact fun _ => trivial
      · intro _ past hPast
        rw [List.prefix_nil.1 hPast]
        exact h
  | cons event events ih =>
      have hFollowsNext := @follows_step bound _ _ hFollows event
      have hStep := keepsLatest_step_iff hFollows h event
      constructor
      · intro hAlways
        have hNext := hAlways [event] (List.prefix_cons_inj event |>.2 (List.nil_prefix ..))
        refine ⟨hStep.1 hNext, (ih hFollowsNext hNext).1 fun past hPast => ?_⟩
        exact hAlways (event :: past) ((List.prefix_cons_inj event).2 hPast)
      · rintro ⟨hAdmits, hRest⟩ past hPast
        have hNext := hStep.2 hAdmits
        cases past with
        | nil => exact h
        | cons first past =>
            obtain ⟨rfl, hLater⟩ := List.cons_prefix_cons.1 hPast
            exact (ih hFollowsNext hNext).2 hRest past hLater

end Events

/-! ## The entries of a run -/

/-- What a publication records: its result, when there is one and it has identifiers. -/
def recordedOf (request : PublicationRequest) : Outcome PublicationResult → List JournalEvent
  | .error _ => []
  | .ok result =>
      if request.publication.isSet && request.attempt.isSet then
        [.recorded (journalEntry result)]
      else []

def Attempt.recorded (attempt : Attempt) : List JournalEvent :=
  recordedOf attempt.request attempt.result

def journalEvents (registry : Registry) : Operation → List JournalEvent
  | .load config file => if (Store.readStore config file).isOk then [.cleared] else []
  | operation => (attempts registry operation).flatMap Attempt.recorded

/-- The bound of the journal and the journal are the ones given. -/
structure Journaled (bound : Nat) (journal : Journal) (registry : Registry) : Prop where
  bound_eq : registry.options.maxRejectionJournalEntries = bound
  journal_eq : registry.journal = journal

section Publications

variable {bound : Nat} {journal : Journal} {registry : Registry} {request : PublicationRequest}

theorem Journaled.of_fields (h : Journaled bound journal registry) (later : Registry)
    (hOptions : later.options = registry.options) (hJournal : later.journal = registry.journal) :
    Journaled bound journal later :=
  ⟨by rw [hOptions, h.bound_eq], by rw [hJournal, h.journal_eq]⟩

theorem bindGeneration_journaled (h : Journaled bound journal registry) (entity : EntityState) :
    Journaled bound journal (bindGeneration registry request entity).1 := by
  unfold bindGeneration
  split
  · exact h
  · split
    · dsimp only
      split <;> exact ⟨h.bound_eq, h.journal_eq⟩
    · exact h

theorem bindEntity_journaled (h : Journaled bound journal registry) :
    Journaled bound journal (bindEntity registry request).1 := by
  unfold bindEntity
  split
  · exact bindGeneration_journaled h _
  · split
    · exact h
    · dsimp only
      refine bindGeneration_journaled (h.of_fields _ ?_ ?_) _ <;> rfl

theorem applyRequest_journaled (h : Journaled bound journal registry) (entity : EntityState)
    (steps : List ApplyStep) :
    Journaled bound journal (applyRequest registry request entity steps).1 :=
  ⟨h.bound_eq, h.journal_eq⟩

theorem advanceGenerations_journaled (h : Journaled bound journal registry)
    (entity : EntityState) (changed : Bool) :
    Journaled bound journal (advanceGenerations registry entity changed).1 := by
  unfold advanceGenerations
  split
  · split
    · exact h
    · dsimp only
      split <;> exact ⟨h.bound_eq, h.journal_eq⟩
  · exact h

theorem recordJournal_journaled (h : Journaled bound journal registry) (entry : JournalEntry) :
    Journaled bound (journal.record bound entry) (registry.recordJournal entry) := by
  refine ⟨h.bound_eq, ?_⟩
  show registry.journal.record _ entry = _
  rw [h.journal_eq, h.bound_eq]

theorem reject_journaled (h : Journaled bound journal registry) (e : Error) :
    Journaled bound
      (run (Journal.step bound) journal (recordedOf request (reject registry request e).2))
      (reject registry request e).1 := by
  unfold reject
  dsimp only [recordedOf]
  split
  · exact recordJournal_journaled h _
  · exact h

/-- A commit that succeeds records its result. -/
theorem commit_journaled (h : Journaled bound journal registry)
    {before : Option EntityCapabilitySet} {entity : EntityState} {steps : List ApplyStep}
    {contentDigest : Bytes} (hIds : (request.publication.isSet && request.attempt.isSet) = true) :
    Journaled bound
      (run (Journal.step bound) journal
        (recordedOf request (commit registry request before entity steps contentDigest).2))
      (commit registry request before entity steps contentDigest).1 := by
  have hAdvance := advanceGenerations_journaled h entity (semanticChange before entity)
  unfold commit
  dsimp only
  split
  · rename_i failed e hEq
    rw [hEq] at hAdvance
    exact hAdvance
  · rename_i advanced next hEq
    rw [hEq] at hAdvance
    dsimp only [recordedOf]
    rw [if_pos hIds]
    refine recordJournal_journaled (hAdvance.of_fields _ ?_ ?_) _ <;> rfl

/-- A publication records its result. -/
theorem publish_journaled (h : Journaled bound journal registry) :
    Journaled bound
      (run (Journal.step bound) journal (recordedOf request (publish registry request).2))
      (publish registry request).1 := by
  unfold publish
  split
  · exact reject_journaled h _
  · rename_i runtime grant hValid
    have hIds : (request.publication.isSet && request.attempt.isSet) = true := by
      have hShape := (validateRequest_ok hValid).shape
      unfold checkShape at hShape
      obtain ⟨hPublication, hShape⟩ := ite_failure_eq_ok.1 hShape
      obtain ⟨hAttempt, -⟩ := ite_failure_eq_ok.1 hShape
      rw [Bool.and_eq_true]
      exact ⟨by simpa using hPublication, by simpa using hAttempt⟩
    have hBound := @bindEntity_journaled bound journal registry request h
    split
    · rename_i bound e hEq
      rw [hEq] at hBound
      exact reject_journaled hBound _
    · rename_i bound e hEq
      rw [hEq] at hBound
      exact hBound
    · rename_i bound entity hEq
      rw [hEq] at hBound
      unfold publishBound
      dsimp only
      split
      · exact reject_journaled hBound _
      · dsimp only [recordedOf]
        rw [if_pos hIds]
        exact recordJournal_journaled hBound _
      · split
        · exact reject_journaled hBound _
        · have hApplied := @applyRequest_journaled _ _ _ request hBound entity
            (applySteps bound.schema grant request)
          split
          · rename_i applied e hApply
            rw [hApply] at hApplied
            exact reject_journaled hApplied _
          · rename_i applied published hApply
            rw [hApply] at hApplied
            exact commit_journaled hApplied hIds

theorem attempt_journaled {attempt : Attempt} (h : Journaled bound journal attempt.before) :
    Journaled bound (run (Journal.step bound) journal attempt.recorded) attempt.after :=
  publish_journaled h

theorem publishBatch_journaled (h : Journaled bound journal registry)
    (requests : List PublicationRequest) :
    Journaled bound
      (run (Journal.step bound) journal
        ((attempts registry (.publishBatch requests)).flatMap Attempt.recorded))
      (publishBatch registry requests).1 := by
  refine @publishBatch_history
    (fun past later => Journaled bound
      (run (Journal.step bound) journal (past.flatMap Attempt.recorded)) later)
    [] registry requests (fun past attempt _ hBefore => ?_) h
  rw [List.flatMap_append, run_append, List.flatMap_singleton]
  exact attempt_journaled hBefore

end Publications

section Operations

variable {bound : Nat} {journal : Journal} {registry : Registry}

theorem advanceRegistry_journaled {α : Type} (h : Journaled bound journal registry) (value : α) :
    Journaled bound journal (advanceRegistry registry value).1 := by
  unfold advanceRegistry
  split
  · exact h
  · exact h.of_fields _ rfl rfl

theorem insertFence_journaled (h : Journaled bound journal registry) (boot : WorkerBootId)
    (reason : ReasonToken) : Journaled bound journal (insertFence registry boot reason).1 := by
  unfold insertFence
  dsimp only
  refine advanceRegistry_journaled (h.of_fields _ ?_ ?_) _ <;> rfl

theorem fenceWorkerBoot_journaled (h : Journaled bound journal registry) (boot : WorkerBootId)
    (reason : ReasonToken) :
    Journaled bound journal (fenceWorkerBoot registry boot reason).1 := by
  unfold fenceWorkerBoot
  split
  · exact h
  · split
    · exact h
    · split
      · split
        · exact h
        · refine insertFence_journaled (h.of_fields _ ?_ ?_) _ _ <;> rfl
      · exact insertFence_journaled h _ _

theorem advanceCoordinatorEpoch_journaled (h : Journaled bound journal registry)
    (reason : ReasonToken) :
    Journaled bound journal (advanceCoordinatorEpoch registry reason).1 := by
  unfold advanceCoordinatorEpoch
  split
  · exact h
  · refine advanceRegistry_journaled (h.of_fields _ ?_ ?_) _
    · show (fenceBoots _ _ _).options = _
      rw [fenceBoots_only]
    · show (fenceBoots _ _ _).journal = _
      rw [fenceBoots_only]

theorem observeEntityGeneration_journaled (h : Journaled bound journal registry)
    (entity : EntityId) (generation : EntityGeneration) (reason : ReasonToken) :
    Journaled bound journal (observeEntityGeneration registry entity generation reason).1 := by
  unfold observeEntityGeneration
  split
  · exact h
  · split
    · split
      · exact h
      · exact h.of_fields _ rfl rfl
    · split
      · exact h.of_fields _ rfl rfl
      · split
        · exact h
        · split
          · exact h
          · dsimp only
            split <;> exact h.of_fields _ rfl rfl

theorem invalidateEntity_journaled (h : Journaled bound journal registry) (entity : EntityId)
    (generation : EntityGeneration) (reason : ReasonToken) :
    Journaled bound journal (invalidateEntity registry entity generation reason).1 := by
  unfold invalidateEntity
  split
  · exact h
  · split
    · exact h
    · dsimp only
      split
      · split <;> exact h.of_fields _ rfl rfl
      · exact h.of_fields _ rfl rfl

theorem invalidateSource_journaled (h : Journaled bound journal registry) (source : SourceId)
    (reason : ReasonToken) :
    Journaled bound journal (invalidateSource registry source reason).1 := by
  unfold invalidateSource
  split
  · exact h
  · dsimp only
    split
    · refine advanceRegistry_journaled (h.of_fields _ ?_ ?_) _ <;> rfl
    · exact h.of_fields _ rfl rfl

theorem registerPublisher_journaled (h : Journaled bound journal registry)
    (publisher : PublisherId) (scope : AuthorityScopeId) (boot : WorkerBootId) :
    Journaled bound journal (registerPublisher registry publisher scope boot).1 := by
  unfold registerPublisher
  split
  · exact h
  · split
    · exact h
    · split
      · exact h
      · dsimp only
        split
        · exact h
        · split
          · exact h
          · exact h.of_fields _ rfl rfl

theorem declareAuthority_journaled (h : Journaled bound journal registry)
    (grant : AuthorityGrant) : Journaled bound journal (declareAuthority registry grant).1 := by
  unfold declareAuthority
  split
  · exact h
  · split
    · exact h.of_fields _ rfl rfl
    · split
      · exact h
      · exact h.of_fields _ rfl rfl

/-- Publications record their results, a load empties the journal, and nothing else touches
it. -/
theorem step_journaled (h : Journaled bound journal registry) (operation : Operation) :
    Journaled bound (run (Journal.step bound) journal (journalEvents registry operation))
      (operation.apply registry) := by
  cases operation with
  | publish request =>
      rw [journalEvents, attempts, List.flatMap_singleton]
      · exact publish_journaled h
      · intro config file hEq
        cases hEq
  | publishBatch requests => exact publishBatch_journaled h requests
  | load config file =>
      rw [journalEvents, Operation.apply, load]
      cases Store.readStore config file with
      | error e => exact h
      | ok read => exact ⟨h.bound_eq, rfl⟩
  | fenceWorkerBoot boot reason => exact fenceWorkerBoot_journaled h boot reason
  | advanceCoordinatorEpoch reason => exact advanceCoordinatorEpoch_journaled h reason
  | invalidateEntity entity generation reason =>
      exact invalidateEntity_journaled h entity generation reason
  | invalidateSource source reason => exact invalidateSource_journaled h source reason
  | observeEntityGeneration entity generation reason =>
      exact observeEntityGeneration_journaled h entity generation reason
  | registerPublisher publisher scope boot =>
      exact registerPublisher_journaled h publisher scope boot
  | retirePublisher publisher boot =>
      show Journaled bound journal (retirePublisher registry publisher boot).1
      unfold retirePublisher
      dsimp only
      split
      · exact h
      · exact h.of_fields _ rfl rfl
  | declareAuthority grant => exact declareAuthority_journaled h grant
  | registerVendorDescriptor descriptor =>
      show Journaled bound journal (registerVendorDescriptor registry descriptor).1
      unfold registerVendorDescriptor
      split
      · exact h
      · exact h.of_fields _ rfl rfl
  | rehash publishers =>
      show Journaled bound journal
        (if publishers.Perm registry.publishers then { registry with publishers } else registry)
      split
      · exact h.of_fields _ rfl rfl
      · exact h

end Operations

/-! ## Runs -/

/-- What happened to the journal in a run. -/
def journalRun (options : Options) (operations : List Operation) : List JournalEvent :=
  trace Operation.apply journalEvents (Registry.init options) operations

/-- The journal of a run is what its events make of an empty one. -/
theorem journal_of_run (options : Options) (operations : List Operation) :
    (afterRun options operations).journal =
      run (Journal.step options.maxRejectionJournalEntries) {} (journalRun options operations) := by
  have hInit : Journaled options.maxRejectionJournalEntries {} (Registry.init options) := by
    unfold Registry.init
    split <;> exact ⟨rfl, rfl⟩
  have hRun := @trace_invariant _ _ _ Operation.apply (fun _ _ => True) (Registry.init options)
    operations journalEvents
    (fun past registry => Journaled options.maxRejectionJournalEntries
      (run (Journal.step options.maxRejectionJournalEntries) {} past) registry)
    (fun past registry operation _ h => by
      rw [run_append]
      exact step_journaled h operation)
    (guarded_of_forall fun _ _ => trivial) [] hInit
  exact hRun.journal_eq

/-- In every run the journal is made of the recorded entries; and it is the end of their log
at every moment, inside batches too, exactly when it admits each of them. -/
theorem journal_keeps_latest_iff (options : Options) (operations : List Operation) :
    (afterRun options operations).journal =
        run (Journal.step options.maxRejectionJournalEntries) {}
          (journalRun options operations) ∧
      ((∀ past, past <+: journalRun options operations →
          KeepsLatest options.maxRejectionJournalEntries (run logStep [] past)
            (run (Journal.step options.maxRejectionJournalEntries) {} past)) ↔
        Guarded (Journal.step options.maxRejectionJournalEntries)
          (Journal.AdmitsEvent options.maxRejectionJournalEntries) {}
          (journalRun options operations)) :=
  ⟨journal_of_run options operations,
    keepsLatest_events_iff follows_empty keepsLatest_empty⟩

namespace Sample

/-- Two publications, the first of them sent twice; none of them is authorized. -/
def repeatedPublication : List Operation :=
  ["attempt-1", "attempt-1", "attempt-2"].map fun attempt =>
    .publish (publication bootOne attempt 1 0 (claim .supported .processBound))

end Sample

/-- The queue of a journal for two entries holds three identifiers. -/
theorem repeated_publication_outgrows_queue :
    ¬∀ options operations past, past <+: journalRun options operations →
      KeepsLatest options.maxRejectionJournalEntries (run logStep [] past)
        (run (Journal.step options.maxRejectionJournalEntries) {} past) := by
  intro h
  have hOrder := (h { maxRejectionJournalEntries := 2 } Sample.repeatedPublication _
    (List.prefix_refl _)).order_le
  have hThree : (afterRun { maxRejectionJournalEntries := 2 }
      Sample.repeatedPublication).journal.order.length = 3 := by decide +kernel
  rw [journal_of_run] at hThree
  rw [hThree] at hOrder
  exact absurd hOrder (by decide)

end FabricCapability.Ports

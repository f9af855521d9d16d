import Mathlib.Data.List.DropRight
import Mathlib.Data.List.Dedup
import Mathlib.Data.List.Lattice
import Mathlib.Data.List.Perm.Subperm

/-!
# The most recent keys of a log

A log that keeps a bounded number of keys keeps those that were written last: `latest n`
lists the last `n` distinct keys of a list, each at the place of its last occurrence.

A queue of the last writes keeps the same keys as long as no key is in it twice
(`latest_of_suffix`), and a log with few keys loses none (`latest_of_le`).
-/

namespace FabricCapability.Verified.Recency

variable {κ : Type} [DecidableEq κ] {n : Nat} {keys queue : List κ} {k : κ}

/-- The last `n` distinct keys, in the order of their last occurrences. -/
def latest (n : Nat) (keys : List κ) : List κ := keys.dedup.rtake n

theorem latest_suffix (n : Nat) (keys : List κ) : latest n keys <:+ keys.dedup :=
  List.drop_suffix ..

theorem nodup_latest : (latest n keys).Nodup :=
  (List.nodup_dedup keys).sublist (latest_suffix n keys).sublist

theorem mem_of_mem_latest (h : k ∈ latest n keys) : k ∈ keys :=
  List.mem_dedup.1 ((latest_suffix n keys).subset h)

theorem length_latest : (latest n keys).length = min n keys.dedup.length := by
  unfold latest List.rtake
  rw [List.length_drop]
  omega

/-- With few distinct keys, all of them are the latest. -/
theorem latest_of_le (h : keys.dedup.length ≤ n) : latest n keys = keys.dedup := by
  unfold latest List.rtake
  rw [Nat.sub_eq_zero_of_le h, List.drop_zero]

/-- A queue of the last writes without a key twice is the list of the latest keys. -/
theorem latest_of_suffix (hSuffix : queue <:+ keys) (hNodup : queue.Nodup)
    (hLength : queue.length = n) : latest n keys = queue := by
  obtain ⟨before, rfl⟩ := hSuffix
  have hLast : queue <:+ (before ++ queue).dedup := by
    rw [List.dedup_append, hNodup.dedup]
    exact List.suffix_union_right ..
  unfold latest List.rtake
  rw [← hLength]
  exact (List.suffix_iff_eq_drop.1 hLast).symm

/-- One more write adds at most one distinct key. -/
theorem length_dedup_concat_le : (keys ++ [k]).dedup.length ≤ keys.dedup.length + 1 := by
  have hSub : (keys ++ [k]).dedup ⊆ k :: keys.dedup := by
    intro other hMem
    rw [List.mem_dedup] at hMem
    rcases List.mem_append.1 hMem with hOld | hNew
    · exact List.mem_cons_of_mem _ (List.mem_dedup.2 hOld)
    · rw [List.mem_singleton.1 hNew]
      exact List.mem_cons_self ..
  exact (List.Nodup.subperm (List.nodup_dedup _) hSub).length_le

theorem length_dedup_le_concat : keys.dedup.length ≤ (keys ++ [k]).dedup.length := by
  have hSub : keys.dedup ⊆ (keys ++ [k]).dedup := by
    intro other hMem
    rw [List.mem_dedup] at hMem ⊢
    exact List.mem_append_left _ hMem
  exact (List.Nodup.subperm (List.nodup_dedup _) hSub).length_le

end FabricCapability.Verified.Recency

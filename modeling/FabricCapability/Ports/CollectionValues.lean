import FabricCapability.Ports.CanonicalDecoding
import FabricCapability.Ports.ResolutionRule
import FabricCapability.Ports.Schema

/-!
# Sets and records do not depend on the order of their input

Five factories sort what they are given.  Each makes checks of its own before it sorts and
one for duplicates afterwards, so a list is refused or accepted for what is in it, whatever
the order; and an accepted list is stored in the one order there is.

The factories share this argument: `SortsInto` is what it needs of one of them.

## Main results

* `SortsInto.orderless`: the argument.
* `collections_canonical`: all five factories, and the decoder.
-/

namespace FabricCapability.Ports

open FabricCapability.Verified.StrictOrder

/-- What the values of a set or record factory promise.  `wrap` is the storage of a list of
elements. -/
structure Orderless {α : Type} (make : List α → Outcome CapabilityValue)
    (wrap : List α → ValueStorage) : Prop where
  /-- The value passes the canonical check. -/
  canonical : ∀ xs value, make xs = .ok value → value.storage.validateCanonical = .ok ()
  /-- Every element is stored, and stored once. -/
  kept : ∀ xs value, make xs = .ok value →
    ∃ stored, value.storage = wrap stored ∧ stored.Perm xs ∧ stored.Nodup
  /-- Permutations are both refused, or make equal values that are encoded alike. -/
  permuted : ∀ xs ys, xs.Perm ys →
    (∃ e f, make xs = .error e ∧ make ys = .error f) ∨
      ∃ a b, make xs = .ok a ∧ make ys = .ok b ∧ a.same b = true ∧ a.encode = b.encode

/-- A factory that stores its elements in the order of a comparator. -/
structure SortsInto {α : Type} (lt : α → α → Bool) (make : List α → Outcome CapabilityValue)
    (wrap : List α → ValueStorage) : Prop where
  weak : StrictWeak lt
  trans : ∀ a b c, lt a b = true → lt b c = true → lt a c = true
  stored : ∀ {xs value}, make xs = .ok value → value.storage = wrap (sortBy lt xs)
  made : ∀ {xs}, (wrap (sortBy lt xs)).wellFormed = true → ∃ value, make xs = .ok value
  ordered : ∀ {xs}, (wrap xs).wellFormed = true → increasing lt xs = true

namespace SortsInto

variable {α : Type} {lt : α → α → Bool} {make : List α → Outcome CapabilityValue}
  {wrap : List α → ValueStorage}

/-- The stored elements of an accepted list are strictly increasing. -/
theorem pairwise (h : SortsInto lt make wrap) {xs : List α} {value : CapabilityValue}
    (hMake : make xs = .ok value) : (sortBy lt xs).Pairwise fun a b => lt a b = true := by
  have hFormed := value.canonical
  rw [h.stored hMake] at hFormed
  exact (increasing_iff_pairwise h.trans _).1 (h.ordered hFormed)

/-- A permutation of an accepted list is accepted, and makes the same value. -/
theorem transfer (h : SortsInto lt make wrap) {xs ys : List α} (hPerm : xs.Perm ys)
    {value : CapabilityValue} (hMake : make xs = .ok value) : make ys = .ok value := by
  have hSorted := sortBy_eq_of_perm h.weak hPerm (h.pairwise hMake)
  have hStored := h.stored hMake
  have hFormed := value.canonical
  rw [hStored, hSorted] at hFormed
  obtain ⟨other, hOther⟩ := h.made hFormed
  have hEqual : other = value := by
    apply CapabilityValue.ext
    rw [h.stored hOther, hStored, hSorted]
  rw [hOther, hEqual]

theorem orderless (h : SortsInto lt make wrap) : Orderless make wrap where
  canonical xs value _ := validateCanonical_eq_ok value
  kept xs value hMake := by
    refine ⟨sortBy lt xs, h.stored hMake, sortBy_perm lt xs, ?_⟩
    refine (h.pairwise hMake).imp ?_
    rintro a b hab rfl
    exact absurd (h.weak.asymm a a hab) (by simp [hab])
  permuted xs ys hPerm := by
    cases hX : make xs with
    | ok value =>
        refine .inr ⟨value, value, rfl, h.transfer hPerm hX, ?_, rfl⟩
        exact (CapabilityValue.same_iff ..).2 rfl
    | error e =>
        cases hY : make ys with
        | error f => exact .inl ⟨e, f, rfl, rfl⟩
        | ok value =>
            have hMade := h.transfer hPerm.symm hY
            rw [hX] at hMade
            cases hMade

end SortsInto

/-! ## The factories -/

namespace CapabilityValue

theorem numericSetValue_sorts (unit : QuantityUnit) :
    SortsInto wordLt (numericSetValue unit) fun values => .numericSet ⟨unit, values⟩ where
  weak := wordLt_total.weak
  trans := wordLt_total.trans
  stored := numericSetValue_storage
  made {xs} h := by
    simp only [ValueStorage.wellFormed, Bool.and_eq_true, decide_eq_true_eq, isEmpty_sortBy,
      length_sortBy, List.all_eq_true, mem_sortBy, Bool.not_eq_true'] at h
    obtain ⟨⟨⟨⟨hUnit, hEmpty⟩, hMany⟩, hBound⟩, hInc⟩ := h
    have hDup := anyAdjacent_of_increasing (· == ·)
      (fun a b hab => by rw [beq_iff_eq.1 hab]; exact wordLt_total.irrefl b) hInc
    unfold numericSetValue
    split
    · rename_i e he
      rw [requireQuantityUnit_eq_ok.2 hUnit] at he
      cases he
    · rw [dif_neg (by simp [hEmpty]), dif_neg (by omega)]
      split
      · rename_i e he
        rw [checkNumericElements_eq_ok.2 hBound] at he
        cases he
      · exact ⟨_, dif_neg (by simp [hDup])⟩
  ordered h := by
    simp only [ValueStorage.wellFormed, Bool.and_eq_true] at h
    exact h.2

theorem protocolSetValue_sorts :
    SortsInto protocolLt protocolSetValue fun protocols => .protocolSet ⟨protocols⟩ where
  weak := protocolLt_total.weak
  trans := protocolLt_total.trans
  stored := protocolSetValue_storage
  made {xs} h := by
    simp only [ValueStorage.wellFormed, Bool.and_eq_true, decide_eq_true_eq, isEmpty_sortBy,
      length_sortBy, List.all_eq_true, mem_sortBy, Bool.not_eq_true'] at h
    obtain ⟨⟨⟨hEmpty, hMany⟩, hKnown⟩, hInc⟩ := h
    have hDup := anyAdjacent_of_increasing (· == ·)
      (fun a b hab => by rw [beq_iff_eq.1 hab]; exact protocolLt_total.irrefl b) hInc
    have hAll : xs.all knownProtocol = true := by
      simpa [List.all_eq_true, knownProtocol] using hKnown
    unfold protocolSetValue
    rw [dif_neg (by simp [hEmpty]), dif_neg (by omega), dif_neg (by simp [hAll])]
    exact ⟨_, dif_neg (by simp [hDup])⟩
  ordered h := by
    simp only [ValueStorage.wellFormed, Bool.and_eq_true] at h
    exact h.2

theorem enumerationSetValue_sorts (domain : EnumDomainId) :
    SortsInto codeLt (enumerationSetValue domain) fun codes => .enumSet ⟨domain, codes⟩ where
  weak := codeLt_total.weak
  trans := codeLt_total.trans
  stored := enumerationSetValue_storage
  made {xs} h := by
    simp only [ValueStorage.wellFormed, Bool.and_eq_true, decide_eq_true_eq, isEmpty_sortBy,
      length_sortBy, Bool.not_eq_true'] at h
    obtain ⟨⟨⟨hSet, hEmpty⟩, hMany⟩, hInc⟩ := h
    have hDup := anyAdjacent_of_increasing (· == ·)
      (fun a b hab => by rw [beq_iff_eq.1 hab]; exact codeLt_total.irrefl b) hInc
    unfold enumerationSetValue
    rw [dif_neg (by simp [hSet]), dif_neg (by simp [hEmpty]), dif_neg (by omega)]
    exact ⟨_, dif_neg (by simp [hDup])⟩
  ordered h := by
    simp only [ValueStorage.wellFormed, Bool.and_eq_true] at h
    exact h.2

theorem tupleSetValue_sorts :
    SortsInto tupleLt tupleSetValue fun tuples => .tupleSet ⟨tuples⟩ where
  weak := tupleLt_total.weak
  trans := tupleLt_total.trans
  stored := tupleSetValue_storage
  made {xs} h := by
    simp only [ValueStorage.wellFormed, Bool.and_eq_true, decide_eq_true_eq, isEmpty_sortBy,
      length_sortBy, List.all_eq_true, mem_sortBy, Bool.not_eq_true', beq_iff_eq] at h
    obtain ⟨⟨⟨hEmpty, hMany⟩, hArity⟩, hInc⟩ := h
    have hDup := anyAdjacent_of_increasing (fun a b => !tupleLt a b && !tupleLt b a)
      (fun a b hab => by simp at hab; exact hab.1) hInc
    -- the first member of the input has the arity that all share
    have hShared : ∀ t ∈ xs, t.elements.length = (xs.headD ⟨[]⟩).elements.length ∧
        arityInRange t.elements.length = true := by
      intro t hMem
      refine ⟨?_, (hArity t hMem).2⟩
      cases xs with
      | nil => cases hMem
      | cons head rest =>
          exact (hArity t hMem).1.trans (hArity head (List.mem_cons_self ..)).1.symm
    unfold tupleSetValue
    rw [dif_neg (by simp [hEmpty]), dif_neg (by omega)]
    split
    · rename_i e he
      rw [checkTupleArities_eq_ok.2 hShared] at he
      cases he
    · exact ⟨_, dif_neg (by simp [hDup])⟩
  ordered h := by
    simp only [ValueStorage.wellFormed, Bool.and_eq_true] at h
    exact h.2

theorem recordValue_sorts :
    SortsInto recordFieldLt recordValue fun fields => .record ⟨fields⟩ where
  weak := recordFieldLt_weak
  trans a b c := bytesLt_total.trans a.name b.name c.name
  stored := recordValue_storage
  made {xs} h := by
    simp only [ValueStorage.wellFormed, Bool.and_eq_true, decide_eq_true_eq, isEmpty_sortBy,
      length_sortBy, List.all_eq_true, mem_sortBy, Bool.not_eq_true'] at h
    obtain ⟨⟨⟨hEmpty, hMany⟩, hNames⟩, hInc⟩ := h
    have hDup := anyAdjacent_of_increasing (fun a b : RecordField => a.name == b.name)
      (fun a b hab => by
        rw [recordFieldLt, beq_iff_eq.1 hab]
        exact bytesLt_total.irrefl b.name) hInc
    unfold recordValue
    rw [dif_neg (by simp [hEmpty]), dif_neg (by omega)]
    split
    · rename_i e he
      rw [checkFieldNames_eq_ok.2 hNames] at he
      cases he
    · split
      · rename_i name hName
        rw [duplicateFieldName_eq_none.2 hDup] at hName
        cases hName
      · exact ⟨_, rfl⟩
  ordered h := by
    simp only [ValueStorage.wellFormed, Bool.and_eq_true] at h
    exact h.2

end CapabilityValue

/-- The set and record factories make canonical values that do not depend on the order of
the elements, and what the decoder reads is canonical. -/
theorem collections_canonical :
    (∀ unit, Orderless (CapabilityValue.numericSetValue unit)
      fun values => .numericSet ⟨unit, values⟩) ∧
    (Orderless CapabilityValue.protocolSetValue fun protocols => .protocolSet ⟨protocols⟩) ∧
    (∀ domain, Orderless (CapabilityValue.enumerationSetValue domain)
      fun codes => .enumSet ⟨domain, codes⟩) ∧
    (Orderless CapabilityValue.tupleSetValue fun tuples => .tupleSet ⟨tuples⟩) ∧
    (Orderless CapabilityValue.recordValue fun fields => .record ⟨fields⟩) ∧
    ∀ bytes value rest, CapabilityValue.decode bytes = .ok (value, rest) →
      value.storage.validateCanonical = .ok () :=
  ⟨fun unit => (CapabilityValue.numericSetValue_sorts unit).orderless,
    CapabilityValue.protocolSetValue_sorts.orderless,
    fun domain => (CapabilityValue.enumerationSetValue_sorts domain).orderless,
    CapabilityValue.tupleSetValue_sorts.orderless,
    CapabilityValue.recordValue_sorts.orderless,
    fun _ value _ _ => validateCanonical_eq_ok value⟩

end FabricCapability.Ports

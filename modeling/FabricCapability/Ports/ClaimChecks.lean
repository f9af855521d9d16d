import FabricCapability.Ports.EntityRules

/-!
# What stage 5 checks

The claims of a request are checked one after the other, each against the schema, the grant
and the claims before it.  Whether all pass is a property of the claims alone: each passes
by itself, and no two are for capabilities with the same text.

## Main results

* `checkClaims_ok_iff`, `checkEdits_ok_iff`: when the claims or the edits of a request pass.
* `checkClaims_distinct`: claims that pass are for distinct capabilities.
-/

namespace FabricCapability.Ports

variable {schema : CapabilitySchema} {grant : AuthorityGrant}

/-- The claims before a claim matter only for its capability. -/
theorem checkClaim_seen {seen : List Bytes} {claim : CapabilityClaim} :
    checkClaim schema grant seen claim = .ok () ↔
      claim.capability.toText ∉ seen ∧ checkClaim schema grant [] claim = .ok () := by
  unfold checkClaim namespaceViolation
  rw [ite_failure_eq_ok, ite_failure_eq_ok, ite_failure_eq_ok, ite_failure_eq_ok,
    ite_failure_eq_ok, ite_failure_eq_ok]
  constructor
  · rintro ⟨hSet, hCovered, hNew, hRest⟩
    exact ⟨hNew, hSet, hCovered, List.not_mem_nil, hRest⟩
  · rintro ⟨hNew, hSet, hCovered, -, hRest⟩
    exact ⟨hSet, hCovered, hNew, hRest⟩

/-- The claims of a request pass exactly when each does and their texts are distinct. -/
theorem checkClaims_ok_iff {seen : List Bytes} {claims : List CapabilityClaim} :
    checkClaims schema grant seen claims = .ok () ↔
      (∀ claim ∈ claims, checkClaim schema grant [] claim = .ok ()) ∧
      (claims.map fun claim => claim.capability.toText).Nodup ∧
      ∀ claim ∈ claims, claim.capability.toText ∉ seen := by
  induction claims generalizing seen with
  | nil => simp [checkClaims]
  | cons claim claims ih =>
      have hBoth : checkClaims schema grant seen (claim :: claims) = .ok () ↔
          checkClaim schema grant seen claim = .ok () ∧
            checkClaims schema grant (claim.capability.toText :: seen) claims = .ok () := by
        rw [checkClaims, outcome_bind_eq_ok]
        exact ⟨fun ⟨_, hFirst, hRest⟩ => ⟨hFirst, hRest⟩, fun ⟨hFirst, hRest⟩ => ⟨_, hFirst, hRest⟩⟩
      rw [hBoth, checkClaim_seen, ih, List.forall_mem_cons, List.forall_mem_cons, List.map_cons,
        List.nodup_cons]
      have hSplit : (∀ other ∈ claims, other.capability.toText ∉ claim.capability.toText :: seen) ↔
          claim.capability.toText ∉ claims.map (fun claim => claim.capability.toText) ∧
            ∀ other ∈ claims, other.capability.toText ∉ seen := by
        simp only [List.mem_cons, not_or, List.mem_map, not_exists, not_and]
        exact ⟨fun h => ⟨fun other hMem => (h other hMem).1, fun other hMem => (h other hMem).2⟩,
          fun h other hMem => ⟨h.1 other hMem, h.2 other hMem⟩⟩
      rw [hSplit]
      tauto

/-- Claims that pass are for distinct capabilities. -/
theorem checkClaims_distinct {seen : List Bytes} {claims : List CapabilityClaim}
    (h : checkClaims schema grant seen claims = .ok ()) :
    (claims.map CapabilityClaim.capability).Nodup := by
  refine List.Nodup.of_map CapabilityId.toText ?_
  rw [List.map_map]
  exact (checkClaims_ok_iff.1 h).2.1

theorem checkEdits_ok_iff {edits : List IncrementalEdit} :
    checkEdits schema grant edits = .ok () ↔
      ∀ edit ∈ edits, checkEdit schema grant edit = .ok () := by
  induction edits with
  | nil => simp [checkEdits]
  | cons edit edits ih =>
      rw [checkEdits, outcome_bind_eq_ok, List.forall_mem_cons, ← ih]
      exact ⟨fun ⟨_, hFirst, hRest⟩ => ⟨hFirst, hRest⟩, fun ⟨hFirst, hRest⟩ => ⟨_, hFirst, hRest⟩⟩

theorem effectiveClaim_capability (edit : IncrementalEdit) :
    edit.effectiveClaim.capability = edit.capability := by
  unfold IncrementalEdit.effectiveClaim
  dsimp only
  split <;> rfl

end FabricCapability.Ports

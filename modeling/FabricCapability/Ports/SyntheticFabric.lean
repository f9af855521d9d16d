import FabricCapability.Ports.IdGrammar
import FabricCapability.Ports.QuantityText
import FabricCapability.Ports.RequirementReports
import FabricCapability.Ports.SchemaRuns
import FabricCapability.Ports.Synthetic

/-!
# Importing a synthetic fabric

What `BuildSyntheticFabric` hands out, held against what an import needs: no publication
names a capability twice, the canonical schema accepts every claim, and the changing source
reports about the devices of the fabric, each in its turn.

Every claim is accepted.  But four profiles are layered on top of another one and repeat some
of its capabilities, and the changing source is always copied from the first device.

## Main results

* `makeSyntheticEntity_isSet`, `makeSyntheticEntity_next`: the names of the devices.
* `claims_accepted`: the schema accepts the claims of every profile.
* `buildSyntheticFabric_eq`: the fabric, device by device.
* `fabric_imports_iff`: when a fabric can be imported.
-/

namespace FabricCapability.Ports

/-! ## Device names -/

section DeviceNames

theorem decimal_digits (n : Nat) :
    (∀ ch ∈ decimal n, isDigit ch = true) ∧ digitsValue (decimal n) = n := by
  have hDigits : ∀ digit ∈ Nat.toDigits 10 n, digit.isDigit = true := fun _ hMem =>
    Nat.isDigit_of_mem_toDigits (by decide) (by decide) hMem
  have hAll : ∀ (digits : List Char) (value : Nat), (∀ digit ∈ digits, digit.isDigit = true) →
      (∀ ch ∈ digits.flatMap String.utf8EncodeChar, isDigit ch = true) ∧
        digitsFrom value (digits.flatMap String.utf8EncodeChar) =
          Nat.ofDigitChars 10 digits value := by
    intro digits
    induction digits with
    | nil => exact fun _ _ => ⟨nofun, rfl⟩
    | cons digit digits ih =>
        intro value h
        rw [List.forall_mem_cons] at h
        have hRange : 48 ≤ digit.val.toNat ∧ digit.val.toNat ≤ 57 := by
          simpa [Char.isDigit, UInt32.le_iff_toNat_le] using h.1
        have hByte : String.utf8EncodeChar digit = [UInt8.ofNat digit.val.toNat] := by
          simp only [String.utf8EncodeChar, if_pos (by omega : digit.val.toNat ≤ 127)]
        have hNat : (UInt8.ofNat digit.val.toNat).toNat = digit.val.toNat := by
          rw [UInt8.toNat_ofNat']
          omega
        obtain ⟨hChars, hValue⟩ := ih (10 * value + (digit.toNat - '0'.toNat)) h.2
        rw [List.flatMap_cons, hByte, List.singleton_append, List.forall_mem_cons,
          digitsFrom_cons, Nat.ofDigitChars_cons, ← hValue, hNat, Nat.mul_comm value 10]
        refine ⟨⟨?_, hChars⟩, rfl⟩
        rw [isDigit_iff, UInt8.lt_iff_toNat_lt, gt_iff_lt, UInt8.lt_iff_toNat_lt, hNat]
        show ¬(digit.val.toNat < 48 ∨ 57 < digit.val.toNat)
        omega
  obtain ⟨hChars, hValue⟩ := hAll _ 0 hDigits
  rw [← decimal_eq] at hChars hValue
  exact ⟨hChars, hValue.trans Nat.ofDigitChars_ten_toDigits⟩

variable {index other : UInt64}

theorem deviceDigits_digits (index : UInt64) :
    (∀ ch ∈ deviceDigits index, isDigit ch = true) ∧ deviceDigits index ≠ [] ∧
      (deviceDigits index).length ≤ 24 := by
  obtain ⟨hChars, -⟩ := decimal_digits index.toNat
  have hFits := (fits_counter index).bound
  refine ⟨?_, ?_, ?_⟩
  · intro ch hMem
    rcases List.mem_append.1 hMem with hZero | hDigit
    · rw [(List.mem_replicate.1 hZero).2]
      decide
    · exact hChars ch hDigit
  · intro hNil
    have hDecimal := (List.append_eq_nil_iff.1 hNil).2
    have hLength := length_decimal index.toNat
    rw [hDecimal, List.length_nil] at hLength
    have := @Nat.length_toDigits_pos 10 index.toNat
    omega
  · rw [deviceDigits, List.length_append, List.length_replicate]
    omega

/-- Leading zeros do not change the number. -/
theorem deviceDigits_value (index : UInt64) : digitsValue (deviceDigits index) = index.toNat := by
  have hZeros : ∀ count, digitsFrom 0 (List.replicate count 0x30) = 0 := by
    intro count
    induction count with
    | zero => rfl
    | succ count ih =>
        rw [List.replicate_succ, digitsFrom_cons]
        exact ih
  rw [deviceDigits, digitsValue, digitsFrom_append, hZeros]
  exact (decimal_digits index.toNat).2

/-- The front of a device name is a run of letters and single dashes that ends in a dash. -/
theorem nameFront (deviceClass : SyntheticDeviceClass) :
    let front := txt "syn-" ++ (entryFor deviceClass).token ++ txt "-"
    front.length ≤ 14 ∧ front.all (fun ch => isLowerAlpha ch || ch == dash) = true ∧
      front.head?.all isAlphanumeric = true ∧ front.head?.isSome = true ∧
      (front.IsChain fun a b => acceptedSeparator a = true → acceptedSeparator b = false) := by
  cases deviceClass <;> decide +kernel

theorem digit_not_separator {ch : UInt8} (h : isDigit ch = true) :
    acceptedSeparator ch = false := by
  refine Bool.eq_false_iff.2 fun hSeparator => ?_
  rw [acceptedSeparator, documentedSeparator, Bool.or_eq_true, Bool.or_eq_true] at hSeparator
  rcases hSeparator with (hEq | hEq) | hEq <;> obtain rfl := beq_iff_eq.1 hEq <;>
    exact absurd h (by decide)

/-- Every name that `MakeSyntheticEntity` builds passes the check of names. -/
theorem deviceName_segment (deviceClass : SyntheticDeviceClass) (index : UInt64) :
    Segment acceptedSeparator kMaxEntityNameLength
      (txt "syn-" ++ (entryFor deviceClass).token ++ txt "-" ++ deviceDigits index) := by
  obtain ⟨hFront, hChars, hFirst, hSome, hChain⟩ := nameFront deviceClass
  obtain ⟨hDigits, hNonempty, hLength⟩ := deviceDigits_digits index
  generalize txt "syn-" ++ (entryFor deviceClass).token ++ txt "-" = front at *
  generalize deviceDigits index = digits at *
  have hDigit : ∀ ch ∈ digits, isAlphanumeric ch = true := fun ch hMem => by
    rw [isAlphanumeric, hDigits ch hMem, Bool.or_true]
  constructor
  · exact fun hNil => hNonempty (List.append_eq_nil_iff.1 hNil).2
  · rw [List.length_append, kMaxEntityNameLength]
    omega
  · intro ch hMem
    rcases List.mem_append.1 hMem with hMem | hMem
    · have hChar := List.all_eq_true.1 hChars ch hMem
      rw [Bool.or_eq_true] at hChar
      rcases hChar with hAlpha | hDash
      · exact .inl (by rw [isAlphanumeric, hAlpha, Bool.true_or])
      · exact .inr (by rw [acceptedSeparator, documentedSeparator, hDash, Bool.true_or,
          Bool.true_or])
    · exact .inl (hDigit ch hMem)
  · obtain ⟨first, hHead⟩ := Option.isSome_iff_exists.1 hSome
    intro ch hMem
    rw [List.head?_append, hHead] at hMem
    rw [hHead] at hFirst
    obtain rfl : first = ch := Option.some.inj hMem
    exact hFirst
  · intro ch hMem
    rw [List.getLast?_append_of_ne_nil _ hNonempty] at hMem
    exact hDigit ch (List.mem_of_getLast? hMem)
  · refine List.isChain_append.2 ⟨hChain, ?_, ?_⟩
    · refine List.isChain_iff_forall_rel_of_append_cons_cons.2 fun {a b before after} hSplit _ => ?_
      exact digit_not_separator (hDigits b (by simp [hSplit]))
    · intro a _ b hMem _
      exact digit_not_separator (hDigits b (List.mem_of_mem_head? hMem))

/-- The entity of a device: its kind, and its name in full. -/
theorem makeSyntheticEntity_spec (deviceClass : SyntheticDeviceClass) (index : UInt64) :
    (makeSyntheticEntity deviceClass index).isSet = true ∧
      (makeSyntheticEntity deviceClass index).canonical =
        txt "syn-" ++ (entryFor deviceClass).token ++ txt "-" ++ deviceDigits index := by
  have hSegment := deviceName_segment deviceClass index
  have hValid := (@validateToken_segment _ (txt "entity name") _ hSegment.not_dot).2 hSegment
  have hKind : (entryFor deviceClass).kind ≠ .unknown := by cases deviceClass <;> decide
  have hCreate := @EntityId.create_eq_ok _ _ ⟨(entryFor deviceClass).kind, _,
    .inr ⟨hKind, hValid⟩⟩ |>.2 ⟨EntityId.isSet_iff.2 hKind, rfl, rfl⟩
  unfold makeSyntheticEntity
  dsimp only
  rw [hCreate]
  exact ⟨EntityId.isSet_iff.2 hKind, rfl⟩

theorem makeSyntheticEntity_injective {deviceClass : SyntheticDeviceClass}
    (h : makeSyntheticEntity deviceClass index = makeSyntheticEntity deviceClass other) :
    index = other := by
  have hNames := congrArg EntityId.canonical h
  rw [(makeSyntheticEntity_spec deviceClass index).2,
    (makeSyntheticEntity_spec deviceClass other).2] at hNames
  have hValues := congrArg digitsValue (List.append_cancel_left hNames)
  rw [deviceDigits_value, deviceDigits_value] at hValues
  exact UInt64.toNat_inj.1 hValues

end DeviceNames

/-! ## Accepted claims -/

/-- The canonical schema declares the capability and accepts the claim for it. -/
def CapabilityClaim.Accepted (claim : CapabilityClaim) : Prop :=
  ∃ descriptor, CapabilitySchema.canonical.find claim.capability = .ok descriptor ∧
    validateClaimShape descriptor claim = .ok ()

/-- The number that the text of an identifier spells. -/
def CapabilityId.spelled (id : CapabilityId) : Nat :=
  id.toText.foldl (fun n byte => n * 256 + byte.toNat) 0

/-- Whether a descriptor of the table is for the capability of the claim and accepts it.
Identifiers that spell different numbers are not compared any further. -/
def acceptedBy (claim : CapabilityClaim) (descriptor : CapabilityDescriptor) : Bool :=
  descriptor.id.spelled == claim.capability.spelled &&
    (decide (descriptor.id = claim.capability) &&
      (validateClaimShape descriptor claim).toOption.isSome)

theorem accepted_of_listed {claim : CapabilityClaim}
    (h : canonicalTable.any (acceptedBy claim) = true) : claim.Accepted := by
  obtain ⟨descriptor, hMem, hAccepted⟩ := List.any_eq_true.1 h
  unfold acceptedBy at hAccepted
  rw [Bool.and_eq_true, Bool.and_eq_true, decide_eq_true_eq] at hAccepted
  obtain ⟨-, hId, hShape⟩ := hAccepted
  refine ⟨descriptor, ?_, ?_⟩
  · have hSome : (CapabilitySchema.canonical.lookup claim.capability).isSome = true :=
      List.find?_isSome.2 ⟨descriptor, hMem, decide_eq_true hId⟩
    obtain ⟨found, hFound⟩ := Option.isSome_iff_exists.1 hSome
    have hSame : found = descriptor := by
      refine List.inj_on_of_nodup_map canonical_distinct (List.mem_of_find?_eq_some hFound) hMem ?_
      have hFoundId := List.find?_some (show canonicalTable.find? _ = some found from hFound)
      exact (of_decide_eq_true hFoundId).trans hId.symm
    unfold CapabilitySchema.find
    rw [hFound, hSame]
  · cases hShape' : validateClaimShape descriptor claim with
    | ok => rfl
    | error e =>
        rw [hShape'] at hShape
        cases hShape

/-- The offsets that a device may have. -/
def queueOffsets : List UInt64 := [0, 1, 2, 3, 4]

theorem queueOffsetOf_mem (seed nameIndex : UInt64) :
    queueOffsetOf seed nameIndex ∈ queueOffsets := by
  have hAll : ∀ offset : UInt64, offset.toNat < 5 → offset ∈ queueOffsets := by
    intro offset hLt
    obtain ⟨n, hn⟩ : ∃ n, offset.toNat = n := ⟨_, rfl⟩
    rw [hn] at hLt
    have hCases : n = 0 ∨ n = 1 ∨ n = 2 ∨ n = 3 ∨ n = 4 := by omega
    rw [← @UInt64.ofNat_toNat offset, hn]
    rcases hCases with rfl | rfl | rfl | rfl | rfl <;> decide
  refine hAll _ ?_
  rw [queueOffsetOf, UInt64.toNat_mod]
  exact Nat.mod_lt _ (by decide)

/-- The claims that the three sources make about a device of a profile. -/
def profileClaims (claims : List CapabilityClaim) : List CapabilityClaim :=
  claims ++ ((claims.filter contested).map alteredClaim ++ (claims.filter speeds).map upgradedClaim)

/-- The profiles that are laid on top of another one. -/
def SyntheticDeviceClass.layered : SyntheticDeviceClass → Bool
  | .smartNic | .dpu | .rdmaCapableDevice | .telemetryRichDevice => true
  | _ => false

/-- What an evaluation can tell of a profile: the schema accepts its claims, a profile of its
own repeats no capability, and only the router claims no speeds. -/
def profilePasses (deviceClass : SyntheticDeviceClass) (claims : List CapabilityClaim) : Bool :=
  (profileClaims claims).all (fun claim => canonicalTable.any (acceptedBy claim)) &&
    ((deviceClass.layered ||
        decide (claims.map fun claim => claim.capability.spelled).Nodup) &&
      claims.any speeds == (deviceClass != .router))

/-- One evaluation for all classes, so that the table is read once. -/
theorem profiles_pass : (syntheticDeviceClasses.all fun deviceClass =>
    queueOffsets.all fun queueOffset =>
      profilePasses deviceClass (claimsFor deviceClass queueOffset)) = true := by
  decide +kernel

section Profiles

variable {deviceClass : SyntheticDeviceClass} {queueOffset : UInt64}

theorem profile_passes (deviceClass : SyntheticDeviceClass)
    (hOffset : queueOffset ∈ queueOffsets) :
    profilePasses deviceClass (claimsFor deviceClass queueOffset) = true :=
  List.all_eq_true.1 (List.all_eq_true.1 profiles_pass _ (mem_syntheticDeviceClasses deviceClass))
    _ hOffset

theorem profile_accepted (deviceClass : SyntheticDeviceClass)
    (hOffset : queueOffset ∈ queueOffsets) :
    ∀ claim ∈ profileClaims (claimsFor deviceClass queueOffset), claim.Accepted := by
  have hPasses := profile_passes deviceClass hOffset
  unfold profilePasses at hPasses
  rw [Bool.and_eq_true] at hPasses
  exact fun claim hMem => accepted_of_listed (List.all_eq_true.1 hPasses.1 claim hMem)

/-- The capabilities that a list of claims names, each as often as it is named. -/
def claimedCapabilities (claims : List CapabilityClaim) : List CapabilityId :=
  claims.map CapabilityClaim.capability

theorem profile_distinct (hOffset : queueOffset ∈ queueOffsets)
    (hOwn : deviceClass.layered = false) :
    (claimedCapabilities (claimsFor deviceClass queueOffset)).Nodup := by
  have hPasses := profile_passes deviceClass hOffset
  unfold profilePasses at hPasses
  rw [Bool.and_eq_true, Bool.and_eq_true, hOwn, Bool.false_or, decide_eq_true_eq] at hPasses
  refine List.Nodup.of_map CapabilityId.spelled ?_
  rw [claimedCapabilities, List.map_map]
  exact hPasses.2.1

theorem profile_speeds (hOffset : queueOffset ∈ queueOffsets) :
    (claimsFor deviceClass queueOffset).any speeds = (deviceClass != .router) := by
  have hPasses := profile_passes deviceClass hOffset
  unfold profilePasses at hPasses
  rw [Bool.and_eq_true, Bool.and_eq_true] at hPasses
  exact beq_iff_eq.1 hPasses.2.2

/-- A capability that both layers claim is named twice. -/
theorem not_distinct_of_both {below above : List CapabilityClaim} {a b : CapabilityClaim}
    (hBelow : a ∈ below) (hAbove : b ∈ above) (hSame : a.capability = b.capability) :
    ¬(claimedCapabilities (below ++ above)).Nodup := by
  intro hDistinct
  rw [claimedCapabilities, List.map_append, List.nodup_append] at hDistinct
  exact hDistinct.2.2 _ (List.mem_map_of_mem hBelow) _ (List.mem_map_of_mem hAbove) hSame

/-- The layers of a profile: the one below, and what is put on top of it. -/
theorem layered_repeats (h : deviceClass.layered = true) (queueOffset : UInt64) :
    ¬(claimedCapabilities (claimsFor deviceClass queueOffset)).Nodup := by
  have hHostNic : { makeClaim "fabric.offload.rdma" with value := .boolean false } ∈
      hostNicClaims queueOffset :=
    List.mem_flatten.2 ⟨addBool "fabric.offload.rdma" false, by simp, List.mem_singleton.2 rfl⟩
  have hSmartNic : ¬(claimedCapabilities (smartNicClaims queueOffset)).Nodup := by
    unfold smartNicClaims
    refine not_distinct_of_both hHostNic (b := { makeClaim "fabric.offload.rdma" with
      value := .boolean true }) ?_ rfl
    exact List.mem_flatten.2 ⟨addBool "fabric.offload.rdma" true, by simp,
      List.mem_singleton.2 rfl⟩
  cases deviceClass with
  | smartNic => exact hSmartNic
  | dpu =>
      intro hDistinct
      refine hSmartNic (List.Nodup.sublist (List.Sublist.map _ ?_) hDistinct)
      exact List.sublist_append_left ..
  | rdmaCapableDevice =>
      show ¬(claimedCapabilities (rdmaClaims queueOffset)).Nodup
      unfold rdmaClaims
      refine not_distinct_of_both hHostNic (b := { makeClaim "fabric.offload.rdma" with
        value := .boolean true }) ?_ rfl
      exact List.mem_flatten.2 ⟨addBool "fabric.offload.rdma" true, by simp,
        List.mem_singleton.2 rfl⟩
  | telemetryRichDevice =>
      show ¬(claimedCapabilities (telemetryRichClaims queueOffset)).Nodup
      unfold telemetryRichClaims
      let stamped : CapabilityClaim :=
        { makeClaim "fabric.timestamping.hardware_timestamp_supported" with
          value := .boolean true }
      have hBoth : stamped ∈ addBool "fabric.timestamping.hardware_timestamp_supported" true :=
        List.mem_singleton.2 rfl
      refine not_distinct_of_both (a := stamped) (b := stamped) ?_ ?_ rfl
      · exact List.mem_flatten.2 ⟨_, by simp, hBoth⟩
      · exact List.mem_flatten.2 ⟨_, by simp, hBoth⟩
  | _ => cases h

end Profiles

/-! ## The fabric, device by device -/

section Fabric

variable {deviceClass : SyntheticDeviceClass} {options : SyntheticOptions}

/-- The name index of a device. -/
def nameIndex (options : SyntheticOptions) (index : Nat) : UInt64 :=
  options.nameOffset + UInt64.ofNat index

/-- The primary publication of a device, by its index. -/
def primaryOf (deviceClass : SyntheticDeviceClass) (options : SyntheticOptions) (index : Nat) :
    SyntheticPublication :=
  primaryPublication deviceClass options (nameIndex options index)

/-- What a device adds to the fabric; the changing source is that of the first device. -/
def devicePublications (deviceClass : SyntheticDeviceClass) (options : SyntheticOptions)
    (index : Nat) : List SyntheticPublication :=
  primaryOf deviceClass options index ::
    ((if options.includeConflictingSource then
        conflictPublications deviceClass (primaryOf deviceClass options index)
      else []) ++
      if options.includeChangingSource then
        changedPublications deviceClass (primaryOf deviceClass options 0)
      else [])

theorem addDevice_eq {publications : List SyntheticPublication} {index : Nat}
    (hFront : publications.head?.getD (primaryOf deviceClass options index) =
      primaryOf deviceClass options 0) :
    addDevice deviceClass options publications index =
      publications ++ devicePublications deviceClass options index := by
  have hSet := (makeSyntheticEntity_spec deviceClass (nameIndex options index)).1
  unfold addDevice devicePublications
  dsimp only
  rw [show options.nameOffset + UInt64.ofNat index = nameIndex options index from rfl, hSet,
    show primaryPublication deviceClass options (nameIndex options index) =
      primaryOf deviceClass options index from rfl]
  cases options.includeConflictingSource <;> cases options.includeChangingSource <;>
    simp [hFront]

/-- The fabric: what each device adds, in order. -/
theorem buildSyntheticFabric_eq (deviceClass : SyntheticDeviceClass)
    (options : SyntheticOptions) :
    buildSyntheticFabric deviceClass options =
      (List.range options.deviceCount.toNat).flatMap (devicePublications deviceClass options) := by
  unfold buildSyntheticFabric
  induction options.deviceCount.toNat with
  | zero => rfl
  | succ count ih =>
      rw [List.range_succ, List.foldl_append, List.flatMap_append, ih, List.foldl_cons,
        List.foldl_nil, List.flatMap_singleton, addDevice_eq]
      cases count with
      | zero => rfl
      | succ count =>
          rw [List.range_succ_eq_map]
          rfl

/-! ## The publications of one device -/

theorem alteredClaim_capability (claim : CapabilityClaim) :
    (alteredClaim claim).capability = claim.capability := by
  unfold alteredClaim
  split
  · split <;> rfl
  · rfl

/-- The source of a flavour. -/
def flavouredSource (deviceClass : SyntheticDeviceClass) (flavour : String) : SourceId :=
  .parseOrUnset (sourceName (entryFor deviceClass) flavour)

theorem flavours_differ (deviceClass : SyntheticDeviceClass) :
    flavouredSource deviceClass "primary" ≠ flavouredSource deviceClass "change" ∧
      flavouredSource deviceClass "conflict" ≠ flavouredSource deviceClass "change" ∧
      flavouredSource deviceClass "conflict" ≠ flavouredSource deviceClass "primary" := by
  cases deviceClass <;> decide +kernel

theorem mem_conflictPublications {primary publication : SyntheticPublication}
    (h : publication ∈ conflictPublications deviceClass primary) :
    publication.source = flavouredSource deviceClass "conflict" ∧
      publication.claims = (primary.claims.filter contested).map alteredClaim := by
  unfold conflictPublications at h
  dsimp only at h
  split at h
  · cases h
  · rw [List.mem_singleton.1 h]
    exact ⟨rfl, rfl⟩

/-- The changing source speaks for the device it is copied from, if that claims speeds. -/
theorem changedPublications_spec (deviceClass : SyntheticDeviceClass)
    (front : SyntheticPublication) :
    (front.claims.any speeds = false ∧ changedPublications deviceClass front = []) ∨
      ∃ claim changed, claim ∈ front.claims.filter speeds ∧
        changedPublications deviceClass front = [changed] ∧
        changed.entity = front.entity ∧
        changed.source = flavouredSource deviceClass "change" ∧
        changed.claims = [upgradedClaim claim] := by
  unfold changedPublications
  split
  · rename_i hNone
    rw [List.filter_eq_nil_iff] at hNone
    refine .inl ⟨?_, rfl⟩
    rw [List.any_eq_false]
    exact hNone
  · rename_i claim rest hSome
    exact .inr ⟨claim, _, hSome ▸ List.mem_cons_self .., rfl, rfl, rfl, rfl⟩

/-- What the publications of a device claim. -/
theorem device_claims {index : Nat} {publication : SyntheticPublication}
    (h : publication ∈ devicePublications deviceClass options index) :
    ∃ queueOffset ∈ queueOffsets,
      publication.claims = claimsFor deviceClass queueOffset ∨
        publication.claims =
          ((claimsFor deviceClass queueOffset).filter contested).map alteredClaim ∨
        ∃ claim ∈ (claimsFor deviceClass queueOffset).filter speeds,
          publication.claims = [upgradedClaim claim] := by
  have hOffset (index : Nat) := queueOffsetOf_mem options.seed (nameIndex options index)
  rcases List.mem_cons.1 h with rfl | hOther
  · exact ⟨_, hOffset index, .inl rfl⟩
  · rcases List.mem_append.1 hOther with hConflict | hChanged
    · split at hConflict
      · exact ⟨_, hOffset index, .inr (.inl (mem_conflictPublications hConflict).2)⟩
      · cases hConflict
    · split at hChanged
      · rcases changedPublications_spec deviceClass (primaryOf deviceClass options 0) with
          ⟨-, hNone⟩ | ⟨claim, changed, hClaim, hOne, -, -, hClaims⟩
        · rw [hNone] at hChanged
          cases hChanged
        · rw [hOne] at hChanged
          obtain rfl := List.mem_singleton.1 hChanged
          exact ⟨_, hOffset 0, .inr (.inr ⟨claim, hClaim, hClaims⟩)⟩
      · cases hChanged

theorem device_accepted {index : Nat} {publication : SyntheticPublication}
    (h : publication ∈ devicePublications deviceClass options index) :
    ∀ claim ∈ publication.claims, claim.Accepted := by
  obtain ⟨queueOffset, hOffset, hClaims⟩ := device_claims h
  intro claim hMem
  refine profile_accepted deviceClass hOffset claim ?_
  unfold profileClaims
  rw [List.mem_append, List.mem_append]
  rcases hClaims with hPrimary | hConflict | ⟨changed, hChanged, hOne⟩
  · exact .inl (hPrimary ▸ hMem)
  · exact .inr (.inl (hConflict ▸ hMem))
  · rw [hOne, List.mem_singleton] at hMem
    exact .inr (.inr (List.mem_map.2 ⟨changed, hChanged, hMem.symm⟩))

theorem device_distinct {index : Nat} {publication : SyntheticPublication}
    (hOwn : deviceClass.layered = false)
    (h : publication ∈ devicePublications deviceClass options index) :
    (claimedCapabilities publication.claims).Nodup := by
  obtain ⟨queueOffset, hOffset, hClaims⟩ := device_claims h
  have hDistinct := profile_distinct hOffset hOwn
  rcases hClaims with hPrimary | hConflict | ⟨changed, -, hOne⟩
  · rw [hPrimary]
    exact hDistinct
  · have hKept : claimedCapabilities publication.claims =
        claimedCapabilities ((claimsFor deviceClass queueOffset).filter contested) := by
      rw [hConflict, claimedCapabilities, List.map_map]
      exact List.map_congr_left fun claim _ => alteredClaim_capability claim
    rw [hKept]
    exact hDistinct.sublist ((List.filter_sublist).map _)
  · rw [hOne]
    exact List.nodup_singleton _

/-- The publications of one source. -/
def fromSource (source : SourceId) (publications : List SyntheticPublication) :
    List SyntheticPublication :=
  publications.filter fun publication => publication.source = source

/-- The changing source has a publication for each device, unless it has none at all. -/
def ChangesFollow (deviceClass : SyntheticDeviceClass)
    (publications : List SyntheticPublication) : Prop :=
  let changes := fromSource (flavouredSource deviceClass "change") publications
  let primaries := fromSource (flavouredSource deviceClass "primary") publications
  changes = [] ∨
    changes.map SyntheticPublication.entity = primaries.map SyntheticPublication.entity

theorem device_primary (index : Nat) :
    fromSource (flavouredSource deviceClass "primary")
      (devicePublications deviceClass options index) = [primaryOf deviceClass options index] := by
  obtain ⟨hChange, -, hConflict⟩ := flavours_differ deviceClass
  have hOthers : (devicePublications deviceClass options index).tail.filter (fun publication =>
      publication.source = flavouredSource deviceClass "primary") = [] := by
    refine List.filter_eq_nil_iff.2 fun publication hMem => ?_
    rw [decide_eq_true_eq]
    rcases List.mem_append.1 hMem with hMem | hMem
    · split at hMem
      · rw [(mem_conflictPublications hMem).1]
        exact hConflict
      · cases hMem
    · split at hMem
      · rcases changedPublications_spec deviceClass (primaryOf deviceClass options 0) with
          ⟨-, hNone⟩ | ⟨claim, changed, -, hOne, -, hSource, -⟩
        · rw [hNone] at hMem
          cases hMem
        · rw [hOne] at hMem
          rw [List.mem_singleton.1 hMem, hSource]
          exact hChange.symm
      · cases hMem
  have hOwn : (primaryOf deviceClass options index).source =
      flavouredSource deviceClass "primary" := rfl
  show (primaryOf deviceClass options index ::
    (devicePublications deviceClass options index).tail).filter _ = _
  rw [List.filter_cons, if_pos (decide_eq_true hOwn), hOthers]

theorem device_changes (index : Nat) :
    fromSource (flavouredSource deviceClass "change")
      (devicePublications deviceClass options index) =
      if options.includeChangingSource then
        changedPublications deviceClass (primaryOf deviceClass options 0)
      else [] := by
  obtain ⟨hChange, hConflict, -⟩ := flavours_differ deviceClass
  unfold fromSource devicePublications
  rw [List.filter_cons_of_neg (by
    rw [decide_eq_true_eq]
    exact hChange), List.filter_append]
  have hNoConflict : (if options.includeConflictingSource then
      conflictPublications deviceClass (primaryOf deviceClass options index) else []).filter
        (fun publication => publication.source = flavouredSource deviceClass "change") = [] := by
    refine List.filter_eq_nil_iff.2 fun publication hMem => ?_
    rw [decide_eq_true_eq]
    split at hMem
    · rw [(mem_conflictPublications hMem).1]
      exact hConflict
    · cases hMem
  rw [hNoConflict, List.nil_append, List.filter_eq_self]
  intro publication hMem
  rw [decide_eq_true_eq]
  split at hMem
  · rcases changedPublications_spec deviceClass (primaryOf deviceClass options 0) with
      ⟨-, hNone⟩ | ⟨claim, changed, -, hOne, -, hSource, -⟩
    · rw [hNone] at hMem
      cases hMem
    · rw [hOne] at hMem
      rw [List.mem_singleton.1 hMem, hSource]
  · cases hMem

/-! ## The whole fabric -/

theorem fabric_primaries (deviceClass : SyntheticDeviceClass) (options : SyntheticOptions) :
    (fromSource (flavouredSource deviceClass "primary")
      (buildSyntheticFabric deviceClass options)).map SyntheticPublication.entity =
      (List.range options.deviceCount.toNat).map fun index =>
        makeSyntheticEntity deviceClass (nameIndex options index) := by
  rw [buildSyntheticFabric_eq, fromSource, List.filter_flatMap, List.map_flatMap]
  have hOne : ∀ index, ((devicePublications deviceClass options index).filter fun publication =>
      publication.source = flavouredSource deviceClass "primary") =
        [primaryOf deviceClass options index] := fun index => device_primary index
  simp only [hOne, List.map_singleton]
  exact List.map_eq_flatMap.symm

/-- Every changing publication is about the first device. -/
theorem fabric_changes (deviceClass : SyntheticDeviceClass) (options : SyntheticOptions) :
    (fromSource (flavouredSource deviceClass "change")
      (buildSyntheticFabric deviceClass options)).map SyntheticPublication.entity =
      if options.includeChangingSource ∧ deviceClass ≠ .router then
        (List.range options.deviceCount.toNat).map fun _ =>
          makeSyntheticEntity deviceClass (nameIndex options 0)
      else [] := by
  rw [buildSyntheticFabric_eq, fromSource, List.filter_flatMap, List.map_flatMap]
  have hEach : ∀ index, ((devicePublications deviceClass options index).filter fun publication =>
      publication.source = flavouredSource deviceClass "change") =
        if options.includeChangingSource then
          changedPublications deviceClass (primaryOf deviceClass options 0)
        else [] := fun index => device_changes index
  simp only [hEach]
  cases hIncluded : options.includeChangingSource with
  | false => simp
  | true =>
      have hSpeeds : (primaryOf deviceClass options 0).claims.any speeds =
          (deviceClass != .router) := profile_speeds (queueOffsetOf_mem ..)
      rcases changedPublications_spec deviceClass (primaryOf deviceClass options 0) with
        ⟨hNone, hNil⟩ | ⟨claim, changed, hClaim, hOne, hEntity, -, -⟩
      · have hRouter : deviceClass = .router := by
          rw [hNone] at hSpeeds
          simpa using hSpeeds.symm
        rw [if_neg (not_and_not_right.2 fun _ => hRouter), hNil]
        exact List.flatMap_eq_nil_iff.2 fun _ _ => rfl
      · have hOther : deviceClass ≠ .router := by
          rintro rfl
          obtain ⟨hMem, hSpeed⟩ := List.mem_filter.1 hClaim
          exact absurd (List.any_eq_true.2 ⟨claim, hMem, hSpeed⟩) (by rw [hSpeeds]; decide)
        rw [if_pos (And.intro rfl hOther), hOne, if_pos rfl, List.map_singleton, hEntity]
        exact List.map_eq_flatMap.symm

/-- What an import needs of a fabric. -/
structure FabricImports (deviceClass : SyntheticDeviceClass)
    (publications : List SyntheticPublication) : Prop where
  distinct : ∀ publication ∈ publications, (claimedCapabilities publication.claims).Nodup
  accepted : ∀ publication ∈ publications, ∀ claim ∈ publication.claims, claim.Accepted
  changes : ChangesFollow deviceClass publications

theorem fabric_accepted : ∀ publication ∈ buildSyntheticFabric deviceClass options,
    ∀ claim ∈ publication.claims, claim.Accepted := by
  rw [buildSyntheticFabric_eq]
  intro publication hMem
  obtain ⟨index, -, hDevice⟩ := List.mem_flatMap.1 hMem
  exact device_accepted hDevice

theorem fabric_distinct_iff :
    (∀ publication ∈ buildSyntheticFabric deviceClass options,
      (claimedCapabilities publication.claims).Nodup) ↔
      options.deviceCount.toNat = 0 ∨ deviceClass.layered = false := by
  rw [buildSyntheticFabric_eq]
  constructor
  · intro h
    by_contra hNot
    rw [not_or, Bool.not_eq_false] at hNot
    refine layered_repeats hNot.2 _ (h (primaryOf deviceClass options 0) ?_)
    exact List.mem_flatMap.2 ⟨0, List.mem_range.2 (Nat.pos_of_ne_zero hNot.1),
      List.mem_cons_self ..⟩
  · rintro hCount publication hMem
    obtain ⟨index, hIndex, hDevice⟩ := List.mem_flatMap.1 hMem
    rcases hCount with hNone | hOwn
    · rw [hNone] at hIndex
      cases hIndex
    · exact device_distinct hOwn hDevice

theorem fabric_changes_iff :
    ChangesFollow deviceClass (buildSyntheticFabric deviceClass options) ↔
      options.includeChangingSource = false ∨ deviceClass = .router ∨
        options.deviceCount.toNat ≤ 1 := by
  unfold ChangesFollow
  dsimp only
  rw [← @List.map_eq_nil_iff _ _ SyntheticPublication.entity, fabric_changes, fabric_primaries]
  by_cases hIncluded : options.includeChangingSource = true ∧ deviceClass ≠ .router
  · have hNotFalse : ¬options.includeChangingSource = false := by
      rw [hIncluded.1]
      decide
    rw [if_pos hIncluded, List.map_eq_nil_iff, List.range_eq_nil, List.map_inj_left]
    constructor
    · intro h
      refine .inr (.inr ?_)
      by_contra hMany
      rcases h with hNone | hSame
      · omega
      · have hSecond := makeSyntheticEntity_injective (hSame 1 (List.mem_range.2 (by omega)))
        unfold nameIndex at hSecond
        simp at hSecond
    · rintro (hExcluded | hRouter | hFew)
      · exact absurd hExcluded hNotFalse
      · exact absurd hRouter hIncluded.2
      · refine .inr fun index hMem => ?_
        have hZero : index = 0 := by
          have hLt := List.mem_range.1 hMem
          omega
        rw [hZero]
  · rw [if_neg hIncluded]
    refine iff_of_true (.inl rfl) ?_
    rw [not_and_or, not_not, Bool.not_eq_true] at hIncluded
    rcases hIncluded with hExcluded | hRouter
    · exact .inl hExcluded
    · exact .inr (.inl hRouter)

end Fabric

/--
**Importing a synthetic fabric**: every publication of a fabric names each capability once,
the schema accepts every claim and the changing source speaks for each device in its turn
exactly when there is no device, or the profile has no layers and the changing source is left
out, finds no speeds to change (the router) or has one device to speak for.
-/
theorem fabric_imports_iff (deviceClass : SyntheticDeviceClass) (options : SyntheticOptions) :
    FabricImports deviceClass (buildSyntheticFabric deviceClass options) ↔
      options.deviceCount = 0 ∨
        (deviceClass.layered = false ∧
          (options.includeChangingSource = false ∨ deviceClass = .router ∨
            options.deviceCount = 1)) := by
  have hNone : options.deviceCount = 0 ↔ options.deviceCount.toNat = 0 := by
    rw [← UInt64.toNat_inj]
    rfl
  have hOne : options.deviceCount = 1 ↔ options.deviceCount.toNat = 1 := by
    rw [← UInt64.toNat_inj]
    rfl
  rw [hNone, hOne]
  constructor
  · intro h
    have hDistinct := fabric_distinct_iff.1 h.distinct
    have hChanges := fabric_changes_iff.1 h.changes
    by_cases hZero : options.deviceCount.toNat = 0
    · exact .inl hZero
    · refine .inr ⟨hDistinct.resolve_left hZero, ?_⟩
      rcases hChanges with hExcluded | hRouter | hFew
      · exact .inl hExcluded
      · exact .inr (.inl hRouter)
      · exact .inr (.inr (by omega))
  · intro h
    refine ⟨fabric_distinct_iff.2 ?_, fabric_accepted, fabric_changes_iff.2 ?_⟩
    · rcases h with hZero | ⟨hOwn, -⟩
      · exact .inl hZero
      · exact .inr hOwn
    · rcases h with hZero | ⟨-, hExcluded | hRouter | hSingle⟩
      · exact .inr (.inr (by omega))
      · exact .inl hExcluded
      · exact .inr (.inl hRouter)
      · exact .inr (.inr (by omega))

/-- One SmartNIC claims remote direct memory access twice, absent and present. -/
theorem smartNic_fabric_refused :
    ¬∀ (deviceClass : SyntheticDeviceClass) (options : SyntheticOptions),
      FabricImports deviceClass (buildSyntheticFabric deviceClass options) := by
  intro h
  rcases fabric_distinct_iff.1 (h .smartNic {}).distinct with hCount | hLayered
  · exact absurd hCount (by decide)
  · cases hLayered

end FabricCapability.Ports

import FabricCapability.Ports.Error

/-!
# Identifiers and counters

Translation of `include/fabric/capability/ids.hpp` and `src/ids.cpp`.

* `validateToken` is the character-profile check behind every textual
  identifier; `TokenId` carries the proof that it passed, so a malformed
  identifier cannot be built.
* `EntityId`, `CapabilityNamespaceId` and `CapabilityId` are the structured
  identities.  Their rendered text is computed from their parts.
* The generation and epoch counters are 64-bit words whose `counterNext` fails
  at the largest value instead of wrapping.

The default-constructed (unset) identifier is a value of each of these types, as
it is in the source.

## Main results

* `TokenId.parse_value` — the text of a set identifier parses back to it.
* `EntityId.parse_toText` — the rendered form of a set entity identity parses
  back to it.
-/

namespace FabricCapability.Ports

/-! ## Bounds of `limits.hpp` used by the identifiers -/

def kMaxCapabilityIdLength : Nat := 192
def kMaxNamespaceSegmentLength : Nat := 32
def kMaxCapabilityIdSegments : Nat := 6
def kMaxCapabilityLocalLength : Nat := 64
def kMaxEntityNameLength : Nat := 128
def kMaxEntityIdLength : Nat := 160

/-! ## Character classes -/

def isLowerAlpha (ch : UInt8) : Bool := 0x61 ≤ ch && ch ≤ 0x7A
def isDigit (ch : UInt8) : Bool := 0x30 ≤ ch && ch ≤ 0x39
def isHexDigit (ch : UInt8) : Bool := isDigit ch || (0x61 ≤ ch && ch ≤ 0x66)

def dot : UInt8 := 0x2E
def dash : UInt8 := 0x2D
def underscore : UInt8 := 0x5F
def slash : UInt8 := 0x2F
def colon : UInt8 := 0x3A
def space : UInt8 := 0x20

def isSeparator (ch : UInt8) : Bool := ch == dot || ch == dash || ch == underscore

/-- Canonical entity names may contain a slash, for example a port `1/1`. -/
def isEntitySeparator (ch : UInt8) : Bool := isSeparator ch || ch == slash

def isPrintable (ch : UInt8) : Bool := 0x20 ≤ ch && ch ≤ 0x7E

/-! ## Token validation -/

/-- Character profile of a textual identifier. -/
inductive Charset where
  | lowerToken
  | hexToken
  | printableToken
  deriving DecidableEq, Repr

def tokenFailure (what detail : Bytes) : Outcome Unit :=
  failure .malformedIdentifier (txt "malformed " ++ what) detail

/-- The character loop of a lower-case token. -/
def scanLowerToken (what : Bytes) : Bool → Bytes → Outcome Unit
  | _, [] => .ok ()
  | previousSeparator, ch :: rest =>
      let separator := isEntitySeparator ch
      if !isLowerAlpha ch && !isDigit ch && !separator then
        tokenFailure what (txt "contains a character outside [a-z0-9._-]")
      else if separator && previousSeparator then
        tokenFailure what (txt "contains consecutive separators")
      else scanLowerToken what separator rest

/-- The character loop of a hexadecimal token. -/
def scanHexToken (what : Bytes) : Bool → Bytes → Outcome Unit
  | _, [] => .ok ()
  | previousSeparator, ch :: rest =>
      let separator := ch == dash
      if !isHexDigit ch && !separator then
        tokenFailure what (txt "contains a character outside [0-9a-f-]")
      else if separator && previousSeparator then
        tokenFailure what (txt "contains consecutive separators")
      else scanHexToken what separator rest

/-- The character loop of a printable token. -/
def scanPrintableToken (what : Bytes) : Bytes → Outcome Unit
  | [] => .ok ()
  | ch :: rest =>
      if !isPrintable ch then
        tokenFailure what (txt "contains a non printable character")
      else scanPrintableToken what rest

/-- `detail::ValidateToken`: checks a textual identifier against a character
profile. -/
def validateToken (text : Bytes) (charset : Charset) (minLength maxLength : Nat)
    (what : Bytes) : Outcome Unit :=
  if text.length < minLength || text.length > maxLength then
    tokenFailure what (txt "length=" ++ decimal text.length ++ txt " allowed=["
      ++ decimal minLength ++ txt "," ++ decimal maxLength ++ txt "]")
  else
    let front := text.headD 0
    let back := text.getLastD 0
    match charset with
    | .lowerToken =>
        if !isLowerAlpha front && !isDigit front then
          tokenFailure what (txt "must start with a lower case letter or digit")
        else if !isLowerAlpha back && !isDigit back then
          tokenFailure what (txt "must end with a lower case letter or digit")
        else scanLowerToken what false text
    | .hexToken =>
        if front == dash || back == dash then
          tokenFailure what (txt "must not start or end with a separator")
        else scanHexToken what false text
    | .printableToken =>
        if front == space || back == space then
          tokenFailure what (txt "must not start or end with a space")
        else scanPrintableToken what text

/-! ## Token identifiers -/

/-- The identity tags of `ids.hpp`; distinct tags give distinct types. -/
inductive TokenTag where
  | sourceId | publisherId | authorityScopeId | workerBootId
  | capabilityProfileId | compatibilityClassId | mutationAttemptId
  | publicationId | snapshotId | capabilityRecordId | evidenceId
  | enumDomainId | versionToken | reasonToken | profileName | requirementName
  deriving DecidableEq, Repr

namespace TokenTag

/-- The diagnostic kind name used in errors. -/
def kindName : TokenTag → Bytes
  | sourceId => txt "source id"
  | publisherId => txt "publisher id"
  | authorityScopeId => txt "authority scope id"
  | workerBootId => txt "worker boot id"
  | capabilityProfileId => txt "capability profile id"
  | compatibilityClassId => txt "compatibility class id"
  | mutationAttemptId => txt "mutation attempt id"
  | publicationId => txt "publication id"
  | snapshotId => txt "snapshot id"
  | capabilityRecordId => txt "capability record id"
  | evidenceId => txt "evidence id"
  | enumDomainId => txt "enum domain id"
  | versionToken => txt "version token"
  | reasonToken => txt "reason"
  | profileName => txt "profile name"
  | requirementName => txt "requirement name"

def charset : TokenTag → Charset
  | workerBootId | snapshotId | capabilityRecordId | evidenceId => .hexToken
  | mutationAttemptId | publicationId | versionToken | reasonToken
  | profileName | requirementName => .printableToken
  | _ => .lowerToken

def minLength : TokenTag → Nat
  | workerBootId => 8
  | snapshotId | capabilityRecordId | evidenceId => 32
  | _ => 1

def maxLength : TokenTag → Nat
  | workerBootId | versionToken => 64
  | snapshotId | capabilityRecordId | evidenceId => 32
  | reasonToken => 192
  | _ => 96

/-- The check that `TokenId::Parse` makes for this tag. -/
def validate (tag : TokenTag) (text : Bytes) : Outcome Unit :=
  validateToken text tag.charset tag.minLength tag.maxLength tag.kindName

end TokenTag

/-- Strongly typed textual identifier: unset, or a text that its tag's
character profile admits. -/
structure TokenId (tag : TokenTag) where
  value : Bytes
  valid : value = [] ∨ tag.validate value = .ok ()
  deriving DecidableEq

namespace TokenId

variable {tag : TokenTag}

/-- The default-constructed identifier. -/
def unset : TokenId tag := ⟨[], .inl rfl⟩

instance : Inhabited (TokenId tag) := ⟨unset⟩

instance : LawfulBEq (TokenId tag) := inferInstance

def parse (text : Bytes) : Outcome (TokenId tag) :=
  match h : tag.validate text with
  | .ok () => .ok ⟨text, .inr h⟩
  | .error e => .error e

/-- The token a text parses to, unset when it does not parse. -/
def parseOrUnset (text : Bytes) : TokenId tag := (parse text).toOption.getD unset

def isSet (id : TokenId tag) : Bool := !id.value.isEmpty

@[simp] theorem value_unset : (unset : TokenId tag).value = [] := rfl

@[ext] theorem ext {a b : TokenId tag} (h : a.value = b.value) : a = b := by
  cases a; cases b; simp_all

theorem isSet_eq_true {id : TokenId tag} : id.isSet = true ↔ id.value ≠ [] := by
  cases id with | mk value valid => cases value <;> simp [isSet]

theorem eq_unset_of_not_isSet {id : TokenId tag} (h : id.isSet = false) :
    id = unset := by
  apply ext
  simpa [isSet] using h

/-- An identifier that parsed holds exactly the parsed text. -/
theorem parse_eq_ok {text : Bytes} {id : TokenId tag} :
    parse text = .ok id ↔ tag.validate text = .ok () ∧ id.value = text := by
  unfold parse
  split
  · rename_i h
    constructor
    · intro hEq
      cases hEq
      exact ⟨h, rfl⟩
    · rintro ⟨-, hValue⟩
      exact congrArg Except.ok (ext hValue.symm)
  · rename_i e h
    simp [h]

/-- The text of a set identifier parses back to it. -/
theorem parse_value {id : TokenId tag} (h : id.isSet = true) :
    parse id.value = .ok id := by
  rw [parse_eq_ok]
  rcases id.valid with hNil | hValid
  · exact absurd hNil (isSet_eq_true.1 h)
  · exact ⟨hValid, rfl⟩

end TokenId

abbrev SourceId := TokenId .sourceId
abbrev PublisherId := TokenId .publisherId
abbrev AuthorityScopeId := TokenId .authorityScopeId
abbrev WorkerBootId := TokenId .workerBootId
abbrev CapabilityProfileId := TokenId .capabilityProfileId
abbrev CompatibilityClassId := TokenId .compatibilityClassId
abbrev MutationAttemptId := TokenId .mutationAttemptId
abbrev PublicationId := TokenId .publicationId
abbrev SnapshotId := TokenId .snapshotId
abbrev CapabilityRecordId := TokenId .capabilityRecordId
abbrev EvidenceId := TokenId .evidenceId
abbrev EnumDomainId := TokenId .enumDomainId
abbrev VersionToken := TokenId .versionToken
abbrev ReasonToken := TokenId .reasonToken
abbrev ProfileName := TokenId .profileName
abbrev RequirementName := TokenId .requirementName

/-! ## Generation and epoch counters -/

abbrev EntityGeneration := UInt64
abbrev CapabilitySetGeneration := UInt64
abbrev CapabilityGeneration := UInt64
abbrev EvidenceGeneration := UInt64
abbrev SourceGeneration := UInt64
abbrev RegistryGeneration := UInt64
abbrev ProfileGeneration := UInt64
abbrev CoordinatorEpoch := UInt64

/-- `Counter::Next`: never wraps and never saturates. -/
def counterNext (counter : UInt64) : Outcome UInt64 :=
  if counter = 0xFFFFFFFFFFFFFFFF then
    failure .arithmeticOverflow (txt "generation counter exhausted") []
  else .ok (counter + 1)

/-- A counter that could be advanced is one larger. -/
theorem toNat_of_counterNext {counter next : UInt64}
    (h : counterNext counter = .ok next) : next.toNat = counter.toNat + 1 := by
  unfold counterNext at h
  split at h
  · cases h
  · rename_i hMax
    cases h
    have hLt : counter.toNat < 2 ^ 64 := counter.toNat_lt
    have hNe : counter.toNat ≠ 2 ^ 64 - 1 := fun hEq =>
      hMax (UInt64.toNat_inj.1 hEq)
    rw [UInt64.toNat_add]
    exact Nat.mod_eq_of_lt (by simp only [UInt64.reduceToNat]; omega)

theorem counterNext_eq_ok {counter : UInt64} (h : counter ≠ 0xFFFFFFFFFFFFFFFF) :
    counterNext counter = .ok (counter + 1) := by
  simp [counterNext, h]

/-- A counter that cannot be advanced is the last one. -/
theorem toNat_of_exhausted {counter : UInt64} {e : Error} (h : counterNext counter = .error e) :
    counter.toNat = 2 ^ 64 - 1 := by
  have hMax : counter = 0xFFFFFFFFFFFFFFFF := by
    by_contra hNe
    rw [counterNext_eq_ok hNe] at h
    cases h
  rw [hMax]
  rfl

/-! ## Entity identity -/

/-- Entity classes this runtime can bind capability claims to. -/
inductive FabricEntityKind where
  | unknown | fabric | site | device | switch | router | nic | smartNic | dpu
  | port | link | endpoint
  deriving DecidableEq, Repr

namespace FabricEntityKind

/-- The underlying byte of the enumeration. -/
def toByte : FabricEntityKind → UInt8
  | unknown => 0
  | fabric => 1
  | site => 2
  | device => 3
  | switch => 4
  | router => 5
  | nic => 6
  | smartNic => 7
  | dpu => 8
  | port => 9
  | link => 10
  | endpoint => 11

end FabricEntityKind

def fabricEntityKindName : FabricEntityKind → Bytes
  | .unknown => txt "unknown"
  | .fabric => txt "fabric"
  | .site => txt "site"
  | .device => txt "device"
  | .switch => txt "switch"
  | .router => txt "router"
  | .nic => txt "nic"
  | .smartNic => txt "smartnic"
  | .dpu => txt "dpu"
  | .port => txt "port"
  | .link => txt "link"
  | .endpoint => txt "endpoint"

/-- The table `kEntityKindNames`; it has no entry for the unknown kind. -/
def entityKindNames : List FabricEntityKind :=
  [.fabric, .site, .device, .switch, .router, .nic, .smartNic, .dpu, .port, .link,
    .endpoint]

def parseFabricEntityKind (text : Bytes) : Outcome FabricEntityKind :=
  match entityKindNames.find? (fabricEntityKindName · == text) with
  | some kind => .ok kind
  | none => failure .malformedIdentifier (txt "unknown fabric entity kind") text

/-- The names of the table are distinct, so a name parses back to its kind. -/
theorem parseFabricEntityKind_name {kind : FabricEntityKind} (h : kind ≠ .unknown) :
    parseFabricEntityKind (fabricEntityKindName kind) = .ok kind := by
  cases kind <;> first | exact absurd rfl h | decide

/-- The check of the canonical name made by `EntityId::Create`. -/
def validateEntityName (canonicalName : Bytes) : Outcome Unit :=
  validateToken canonicalName .lowerToken 1 kMaxEntityNameLength (txt "entity name")

/-- Canonical entity identity: a known entity class with a well-formed canonical
name, or the unset identity. -/
structure EntityId where
  kind : FabricEntityKind
  canonical : Bytes
  valid : (kind = .unknown ∧ canonical = []) ∨
    (kind ≠ .unknown ∧ validateEntityName canonical = .ok ())
  deriving DecidableEq

namespace EntityId

def unset : EntityId := ⟨.unknown, [], .inl ⟨rfl, rfl⟩⟩

instance : Inhabited EntityId := ⟨unset⟩

def isSet (id : EntityId) : Bool := id.kind != .unknown

/-- The rendered form; the unset identity renders as the empty text. -/
def toText (id : EntityId) : Bytes :=
  if id.kind = .unknown then [] else fabricEntityKindName id.kind ++ colon :: id.canonical

def create (kind : FabricEntityKind) (canonicalName : Bytes) : Outcome EntityId :=
  if hKind : kind = .unknown then
    failure .malformedIdentifier
      (txt "entity kind must be a known fabric entity class") []
  else
    match hName : validateEntityName canonicalName with
    | .error e => .error e
    | .ok () => .ok ⟨kind, canonicalName, .inr ⟨hKind, hName⟩⟩

def parse (text : Bytes) : Outcome EntityId :=
  match text.dropWhile (· != colon) with
  | [] =>
      failure .malformedIdentifier
        (txt "entity identifier must be <kind>:<canonical-name>") text
  | _ :: canonicalName => do
      let kind ← parseFabricEntityKind (text.takeWhile (· != colon))
      create kind canonicalName

@[ext] theorem ext {a b : EntityId} (hKind : a.kind = b.kind)
    (hName : a.canonical = b.canonical) : a = b := by
  cases a; cases b; simp_all

theorem isSet_iff {id : EntityId} : id.isSet = true ↔ id.kind ≠ .unknown := by
  simp [isSet]

theorem create_eq_ok {kind : FabricEntityKind} {name : Bytes} {id : EntityId} :
    create kind name = .ok id ↔
      id.isSet = true ∧ id.kind = kind ∧ id.canonical = name := by
  unfold create
  split
  · rename_i hKind
    simp only [failure, reduceCtorEq, false_iff, isSet_iff, not_and]
    rintro hSet rfl
    exact absurd hKind hSet
  · rename_i hKind
    split
    · rename_i e hName
      simp only [reduceCtorEq, false_iff, isSet_iff, not_and]
      rintro hSet rfl rfl
      rcases id.valid with ⟨hUnknown, -⟩ | ⟨-, hValid⟩
      · exact hSet hUnknown
      · simp [hValid] at hName
    · rename_i hName
      constructor
      · intro hEq
        cases hEq
        exact ⟨isSet_iff.2 hKind, rfl, rfl⟩
      · rintro ⟨-, rfl, rfl⟩
        rfl

theorem colon_not_mem_kindName (kind : FabricEntityKind) :
    colon ∉ fabricEntityKindName kind := by
  cases kind <;> decide

/-- The rendered form of a set entity identity parses back to it. -/
theorem parse_toText {id : EntityId} (h : id.isSet = true) :
    parse id.toText = .ok id := by
  have hKind := isSet_iff.1 h
  have hNoColon : ∀ ch ∈ fabricEntityKindName id.kind, (ch != colon) = true := by
    intro ch hMem
    have hNe : ch ≠ colon := fun hEq =>
      colon_not_mem_kindName id.kind (hEq ▸ hMem)
    simpa using hNe
  have hDrop : id.toText.dropWhile (· != colon) = colon :: id.canonical := by
    rw [toText, if_neg hKind, List.dropWhile_append_of_pos hNoColon]
    simp
  have hTake : id.toText.takeWhile (· != colon) = fabricEntityKindName id.kind := by
    rw [toText, if_neg hKind, List.takeWhile_append_of_pos hNoColon]
    simp
  simp only [parse, hDrop, hTake, parseFabricEntityKind_name hKind]
  exact create_eq_ok.2 ⟨h, rfl, rfl⟩

end EntityId

/-! ## Capability identity -/

/-- Split a text at its dots. -/
def splitSegments : Bytes → List Bytes
  | [] => [[]]
  | ch :: rest =>
      if ch = dot then [] :: splitSegments rest
      else
        match splitSegments rest with
        | [] => [[ch]]
        | segment :: segments => (ch :: segment) :: segments

/-- The checks of the segments that follow the first one in a namespace. -/
def validateNamespaceSegments : List Bytes → Outcome Unit
  | [] => .ok ()
  | segment :: segments => do
      validateToken segment .lowerToken 1 kMaxNamespaceSegmentLength
        (txt "namespace segment")
      validateNamespaceSegments segments

/-- The checks that `CapabilityNamespaceId::Parse` makes on its text. -/
def validateNamespace (text : Bytes) : Outcome Unit :=
  if text.length > kMaxCapabilityIdLength then
    failure .malformedIdentifier (txt "capability namespace is too long") []
  else
    let segments := splitSegments text
    let canonical := segments.headD [] == txt "fabric"
    let vendor := segments.headD [] == txt "vendor"
    if !canonical && !vendor then
      failure .unknownNamespace
        (txt "capability namespace must start with 'fabric' (vendor neutral) or 'vendor' (extension)")
        text
    else if canonical && segments.length != 2 then
      failure .malformedIdentifier
        (txt "canonical capability namespace must be 'fabric.<domain>'") text
    else if vendor && segments.length != 2 && segments.length != 3 then
      failure .malformedIdentifier
        (txt "vendor capability namespace must be 'vendor.<vendor>' or 'vendor.<vendor>.<domain>'")
        text
    else validateNamespaceSegments segments.tail

/-- Explicit capability namespace: unset, or a text that passed the checks of
`CapabilityNamespaceId::Parse`. -/
structure CapabilityNamespaceId where
  text : Bytes
  valid : text = [] ∨ validateNamespace text = .ok ()
  deriving DecidableEq

namespace CapabilityNamespaceId

def unset : CapabilityNamespaceId := ⟨[], .inl rfl⟩

instance : Inhabited CapabilityNamespaceId := ⟨unset⟩

def parse (text : Bytes) : Outcome CapabilityNamespaceId :=
  match h : validateNamespace text with
  | .ok () => .ok ⟨text, .inr h⟩
  | .error e => .error e

def isSet (ns : CapabilityNamespaceId) : Bool := !ns.text.isEmpty

/-- `CapabilityNamespaceId::IsVendor`. -/
def isVendor (text : Bytes) : Bool := text.take 7 == txt "vendor."

def isVendorExtension (ns : CapabilityNamespaceId) : Bool := isVendor ns.text

@[ext] theorem ext {a b : CapabilityNamespaceId} (h : a.text = b.text) : a = b := by
  cases a; cases b; simp_all

theorem isSet_iff {ns : CapabilityNamespaceId} : ns.isSet = true ↔ ns.text ≠ [] := by
  cases ns with | mk text valid => cases text <;> simp [isSet]

theorem parse_eq_ok {text : Bytes} {ns : CapabilityNamespaceId} :
    parse text = .ok ns ↔ validateNamespace text = .ok () ∧ ns.text = text := by
  unfold parse
  split
  · rename_i h
    constructor
    · intro hEq
      cases hEq
      exact ⟨h, rfl⟩
    · rintro ⟨-, hText⟩
      exact congrArg Except.ok (ext hText.symm)
  · rename_i e h
    simp [h]

/-- The text of a set namespace parses back to it. -/
theorem parse_text {ns : CapabilityNamespaceId} (h : ns.isSet = true) :
    parse ns.text = .ok ns := by
  rw [parse_eq_ok]
  rcases ns.valid with hNil | hValid
  · exact absurd hNil (isSet_iff.1 h)
  · exact ⟨hValid, rfl⟩

end CapabilityNamespaceId

/-- The checks that `CapabilityId::Create` makes on its arguments. -/
def validateCapabilityParts (ns : CapabilityNamespaceId) (localName : Bytes) :
    Outcome Unit := do
  if !ns.isSet then
    failure .unknownNamespace (txt "capability namespace is not set") []
  validateToken localName .lowerToken 1 kMaxCapabilityLocalLength
    (txt "capability local name")
  let rendered := ns.text ++ dot :: localName
  if rendered.length > kMaxCapabilityIdLength then
    failure .malformedIdentifier (txt "capability identifier is too long") rendered

/-- Fully qualified capability identifier: a namespace and a local name that
passed the checks of `CapabilityId::Create`, or the unset identifier. -/
structure CapabilityId where
  ns : CapabilityNamespaceId
  localName : Bytes
  valid : (ns.text = [] ∧ localName = []) ∨
    validateCapabilityParts ns localName = .ok ()
  deriving DecidableEq

namespace CapabilityId

def unset : CapabilityId := ⟨.unset, [], .inl ⟨rfl, rfl⟩⟩

instance : Inhabited CapabilityId := ⟨unset⟩

/-- A capability identifier is set exactly when its namespace is. -/
def isSet (id : CapabilityId) : Bool := id.ns.isSet

/-- The rendered form; the unset identifier renders as the empty text. -/
def toText (id : CapabilityId) : Bytes :=
  if id.ns.isSet then id.ns.text ++ dot :: id.localName else []

def isVendorExtension (id : CapabilityId) : Bool := id.ns.isVendorExtension

def create (ns : CapabilityNamespaceId) (localName : Bytes) : Outcome CapabilityId :=
  match h : validateCapabilityParts ns localName with
  | .error e => .error e
  | .ok () => .ok ⟨ns, localName, .inr h⟩

def parse (text : Bytes) : Outcome CapabilityId :=
  if text.isEmpty || text.length > kMaxCapabilityIdLength then
    failure .malformedIdentifier
      (txt "capability identifier length is out of range") []
  else
    let segments := splitSegments text
    if segments.length < 3 || segments.length > kMaxCapabilityIdSegments then
      failure .malformedIdentifier
        (txt "capability identifier must have between three and six dot separated segments")
        text
    else do
      let last := segments.getLastD []
      let ns ← CapabilityNamespaceId.parse (text.take (text.length - last.length - 1))
      create ns last

end CapabilityId

end FabricCapability.Ports

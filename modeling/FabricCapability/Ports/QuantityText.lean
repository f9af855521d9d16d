import FabricCapability.Ports.IdCodec
import FabricCapability.Ports.QueryText

/-!
# Numbers and quantities in query expressions

`ParseU64` multiplies before it compares with `kMaxQuantity`.  Its accumulator is the value
of the digits read so far modulo `2 ^ 64`: a number that is too large is refused at the first
prefix whose remainder exceeds the bound, and accepted when there is none.

`ParseQuantity` takes every letter at the end of its text for the unit, so no numeric suffix
is left in front of it: a suffix makes a text that is no unit.

## Main results

* `parseDigits_iff`: the loop of `ParseU64` on any text.
* `number_exact_iff`: when `ParseU64` answers with the number a text denotes.
* `quantity_exact_iff`: when `ParseQuantity` answers with the quantity a text denotes.
-/

namespace FabricCapability.Ports

/-! ## The accumulator -/

/-- The digits of a text continue the number `value`. -/
def digitsFrom (value : Nat) (text : Bytes) : Nat :=
  text.foldl (fun value ch => value * 10 + (ch.toNat - 0x30)) value

/-- The number that a text of digits denotes. -/
def digitsValue (text : Bytes) : Nat := digitsFrom 0 text

theorem digitsFrom_cons (value : Nat) (ch : UInt8) (rest : Bytes) :
    digitsFrom value (ch :: rest) = digitsFrom (value * 10 + (ch.toNat - 0x30)) rest :=
  List.foldl_cons ..

theorem digitsFrom_append (value : Nat) (front back : Bytes) :
    digitsFrom value (front ++ back) = digitsFrom (digitsFrom value front) back :=
  List.foldl_append

theorem le_digitsFrom (value : Nat) (text : Bytes) : value ≤ digitsFrom value text := by
  induction text generalizing value with
  | nil => exact Nat.le_refl _
  | cons ch rest ih =>
      have hRest := ih (value * 10 + (ch.toNat - 0x30))
      rw [digitsFrom_cons]
      omega

theorem digitsFrom_initial {value : Nat} {front text : Bytes} (h : front <+: text) :
    digitsFrom value front ≤ digitsFrom value text := by
  obtain ⟨back, rfl⟩ := h
  rw [digitsFrom_append]
  exact le_digitsFrom _ _

/-- Dropping multiples of the word size on the way changes nothing below it. -/
theorem digitsFrom_mod (size value : Nat) (text : Bytes) :
    digitsFrom (value % size) text % size = digitsFrom value text % size := by
  induction text generalizing value with
  | nil => exact Nat.mod_mod _ _
  | cons ch rest ih =>
      rw [digitsFrom_cons, digitsFrom_cons, ← ih (value % size * 10 + _),
        ← ih (value * 10 + _)]
      congr 2
      rw [Nat.add_mod, Nat.mul_mod, Nat.mod_mod, ← Nat.mul_mod, ← Nat.add_mod]

theorem isDigit_iff {ch : UInt8} : isDigit ch = true ↔ ¬(ch < 0x30 ∨ ch > 0x39) := by
  rw [not_or, UInt8.not_lt, gt_iff_lt, UInt8.not_lt, isDigit, Bool.and_eq_true,
    decide_eq_true_eq, decide_eq_true_eq]

theorem digit_toNat {ch : UInt8} (h : isDigit ch = true) :
    (ch - 0x30).toUInt64.toNat = ch.toNat - 0x30 := by
  rw [isDigit, Bool.and_eq_true, decide_eq_true_eq, UInt8.le_iff_toNat_le] at h
  rw [UInt8.toNat_toUInt64, UInt8.toNat_sub_of_le _ _ (UInt8.le_iff_toNat_le.2 h.1)]
  rfl

/-- One turn of the loop, on a digit. -/
theorem accumulate_toNat {value : UInt64} {ch : UInt8} (h : isDigit ch = true) :
    (value * 10 + (ch - 0x30).toUInt64).toNat =
      (value.toNat * 10 + (ch.toNat - 0x30)) % 2 ^ 64 := by
  rw [UInt64.toNat_add, UInt64.toNat_mul, digit_toNat h, Nat.mod_add_mod]
  rfl

/-- The loop of `ParseU64`: it accepts digits as long as no prefix exceeds the bound modulo
the word size. -/
theorem parseDigits_iff {value out : UInt64} {text : Bytes} :
    parseDigits value text = some out ↔
      (∀ ch ∈ text, isDigit ch = true) ∧
        (∀ front, front ≠ [] → front <+: text →
          digitsFrom value.toNat front % 2 ^ 64 ≤ kMaxQuantity.toNat) ∧
        out.toNat = digitsFrom value.toNat text % 2 ^ 64 := by
  induction text generalizing value with
  | nil =>
      have hSame : digitsFrom value.toNat [] % 2 ^ 64 = value.toNat :=
        Nat.mod_eq_of_lt value.toNat_lt
      rw [parseDigits, Option.some_inj, hSame, ← UInt64.toNat_inj]
      constructor
      · intro hOut
        refine ⟨nofun, fun front hNonempty hPrefix => ?_, hOut.symm⟩
        exact absurd (List.prefix_nil.1 hPrefix) hNonempty
      · exact fun h => h.2.2.symm
  | cons ch rest ih =>
      rw [parseDigits, List.forall_mem_cons]
      by_cases hDigit : isDigit ch = true
      · have hRange : ¬(decide (ch < 0x30) || decide (ch > 0x39)) = true := by
          rw [Bool.or_eq_true, decide_eq_true_eq, decide_eq_true_eq]
          exact isDigit_iff.1 hDigit
        have hNext := @accumulate_toNat value ch hDigit
        have hFrom : ∀ text, digitsFrom (value * 10 + (ch - 0x30).toUInt64).toNat text % 2 ^ 64 =
            digitsFrom value.toNat (ch :: text) % 2 ^ 64 := by
          intro text
          rw [hNext, digitsFrom_mod, digitsFrom_cons]
        rw [if_neg hRange]
        dsimp only
        by_cases hOver : value * 10 + (ch - 0x30).toUInt64 > kMaxQuantity
        · rw [if_pos hOver]
          refine iff_of_false (by simp) fun ⟨_, hPrefixes, _⟩ => ?_
          have hFirst := hPrefixes [ch] (List.cons_ne_nil _ _) ⟨rest, rfl⟩
          rw [← hFrom []] at hFirst
          have hSmall : (value * 10 + (ch - 0x30).toUInt64).toNat ≤ kMaxQuantity.toNat := by
            rwa [digitsFrom, List.foldl_nil, Nat.mod_eq_of_lt (UInt64.toNat_lt _)] at hFirst
          exact absurd (UInt64.lt_iff_toNat_lt.1 hOver) (Nat.not_lt.2 hSmall)
        · have hSmall : (value * 10 + (ch - 0x30).toUInt64).toNat ≤ kMaxQuantity.toNat :=
            UInt64.le_iff_toNat_le.1 (UInt64.not_lt.1 hOver)
          rw [if_neg hOver, ih, hFrom rest]
          constructor
          · rintro ⟨hRest, hPrefixes, hOut⟩
            refine ⟨⟨hDigit, hRest⟩, fun front hNonempty hPrefix => ?_, hOut⟩
            obtain ⟨others, rfl, hOthers⟩ :=
              (List.prefix_cons_iff.1 hPrefix).resolve_left hNonempty
            rw [← hFrom others]
            by_cases hNil : others = []
            · rw [hNil, digitsFrom, List.foldl_nil, Nat.mod_eq_of_lt (UInt64.toNat_lt _)]
              exact hSmall
            · exact hPrefixes others hNil hOthers
          · rintro ⟨⟨-, hRest⟩, hPrefixes, hOut⟩
            refine ⟨hRest, fun front _ hPrefix => ?_, hOut⟩
            rw [hFrom front]
            exact hPrefixes _ (List.cons_ne_nil _ _) (List.cons_prefix_cons.2 ⟨rfl, hPrefix⟩)
      · have hRange : (decide (ch < 0x30) || decide (ch > 0x39)) = true := by
          rw [Bool.or_eq_true, decide_eq_true_eq, decide_eq_true_eq]
          exact not_not.1 (mt isDigit_iff.2 hDigit)
        rw [if_pos hRange]
        exact iff_of_false (by simp) fun h => hDigit h.1.1

/-! ## Numbers -/

/-- A non-empty sequence of decimal digits. -/
def IsNumber (text : Bytes) : Prop := text ≠ [] ∧ ∀ ch ∈ text, isDigit ch = true

/-- The number fits, or some prefix of it exceeds the bound modulo the word size. -/
def StopsInTime (text : Bytes) : Prop :=
  digitsValue text ≤ kMaxQuantity.toNat ∨
    ∃ front, front <+: text ∧ kMaxQuantity.toNat < digitsValue front % 2 ^ 64

theorem parseU64_iff {text : Bytes} {out : UInt64} :
    parseU64 text = some out ↔
      IsNumber text ∧
        (∀ front, front <+: text → digitsValue front % 2 ^ 64 ≤ kMaxQuantity.toNat) ∧
        out.toNat = digitsValue text % 2 ^ 64 := by
  unfold parseU64
  by_cases hNil : text = []
  · rw [if_pos (by simp [hNil])]
    exact iff_of_false nofun fun h => h.1.1 hNil
  · rw [if_neg (by simpa using hNil), parseDigits_iff]
    constructor
    · rintro ⟨hDigits, hPrefixes, hOut⟩
      refine ⟨⟨hNil, hDigits⟩, fun front hPrefix => ?_, hOut⟩
      by_cases hFront : front = []
      · rw [hFront]
        exact Nat.zero_le _
      · exact hPrefixes front hFront hPrefix
    · rintro ⟨⟨-, hDigits⟩, hPrefixes, hOut⟩
      exact ⟨hDigits, fun front _ hPrefix => hPrefixes front hPrefix, hOut⟩

theorem kMaxQuantity_lt : kMaxQuantity.toNat < 2 ^ 64 := kMaxQuantity.toNat_lt

/-- No prefix of a number that fits leaves the bound. -/
theorem prefixes_fit {text front : Bytes} (h : digitsValue text ≤ kMaxQuantity.toNat)
    (hPrefix : front <+: text) : digitsValue front % 2 ^ 64 ≤ kMaxQuantity.toNat :=
  (Nat.mod_le _ _).trans ((digitsFrom_initial hPrefix).trans h)

theorem parseU64_of_fits {text : Bytes} (hNumber : IsNumber text)
    (h : digitsValue text ≤ kMaxQuantity.toNat) :
    parseU64 text = some (UInt64.ofNat (digitsValue text)) :=
  parseU64_iff.2 ⟨hNumber, fun _ hPrefix => prefixes_fit h hPrefix, UInt64.toNat_ofNat'⟩

theorem parseU64_eq_none {text : Bytes} (hNumber : IsNumber text)
    (h : kMaxQuantity.toNat < digitsValue text) :
    parseU64 text = none ↔ StopsInTime text := by
  have hStops : StopsInTime text ↔
      ∃ front, front <+: text ∧ kMaxQuantity.toNat < digitsValue front % 2 ^ 64 :=
    or_iff_right (Nat.not_le.2 h)
  rw [hStops, Option.eq_none_iff_forall_ne_some]
  constructor
  · intro hNone
    by_contra hNever
    rw [not_exists] at hNever
    refine hNone (UInt64.ofNat (digitsValue text)) (parseU64_iff.2
      ⟨hNumber, fun front hPrefix => Nat.not_lt.1 fun hOver => hNever front ⟨hPrefix, hOver⟩,
        UInt64.toNat_ofNat'⟩)
  · rintro ⟨front, hPrefix, hOver⟩ out hSome
    exact absurd ((parseU64_iff.1 hSome).2.1 front hPrefix) (Nat.not_le.2 hOver)

/-- `ParseU64` accepts exactly the numbers up to the bound, with their value, on the texts
that are no numbers or stop in time. -/
theorem number_exact_iff (text : Bytes) :
    (∀ out, parseU64 text = some out ↔
        IsNumber text ∧ digitsValue text ≤ kMaxQuantity.toNat ∧
          out.toNat = digitsValue text) ↔
      (IsNumber text → StopsInTime text) := by
  constructor
  · intro hExact hNumber
    by_cases hFits : digitsValue text ≤ kMaxQuantity.toNat
    · exact .inl hFits
    · rw [← parseU64_eq_none hNumber (Nat.not_le.1 hFits), Option.eq_none_iff_forall_ne_some]
      exact fun out hSome => hFits ((hExact out).1 hSome).2.1
  · intro hStops out
    constructor
    · intro hSome
      obtain ⟨hNumber, -, hOut⟩ := parseU64_iff.1 hSome
      by_cases hFits : digitsValue text ≤ kMaxQuantity.toNat
      · refine ⟨hNumber, hFits, ?_⟩
        rwa [Nat.mod_eq_of_lt (hFits.trans_lt kMaxQuantity_lt)] at hOut
      · rw [(parseU64_eq_none hNumber (Nat.not_le.1 hFits)).2 (hStops hNumber)] at hSome
        cases hSome
    · rintro ⟨hNumber, hFits, hOut⟩
      rw [parseU64_of_fits hNumber hFits, ← hOut, UInt64.ofNat_toNat]

/-- 2 ^ 64 + 4 is read as 4. -/
theorem wrapped_number_accepted :
    ¬∀ out, parseU64 (txt "18446744073709551620") = some out ↔
      IsNumber (txt "18446744073709551620") ∧
        digitsValue (txt "18446744073709551620") ≤ kMaxQuantity.toNat ∧
        out.toNat = digitsValue (txt "18446744073709551620") := by
  intro hExact
  have hFour : parseU64 (txt "18446744073709551620") = some 4 := by decide +kernel
  exact absurd ((hExact 4).1 hFour).2.1 (by decide +kernel)

/-! ## Suffixes and units -/

/-- The numeric suffixes of the usage text. -/
inductive NumericSuffix where
  | kilo | mega | giga | tera | kibi | mebi | gibi | tebi
  deriving DecidableEq, Repr

namespace NumericSuffix

def text : NumericSuffix → Bytes
  | kilo => txt "k"
  | mega => txt "M"
  | giga => txt "G"
  | tera => txt "T"
  | kibi => txt "Ki"
  | mebi => txt "Mi"
  | gibi => txt "Gi"
  | tebi => txt "Ti"

def multiplier : NumericSuffix → Nat
  | kilo => 1000
  | mega => 1000 ^ 2
  | giga => 1000 ^ 3
  | tera => 1000 ^ 4
  | kibi => 1024
  | mebi => 1024 ^ 2
  | gibi => 1024 ^ 3
  | tebi => 1024 ^ 4

end NumericSuffix

def suffixText (suffix : Option NumericSuffix) : Bytes := suffix.elim [] NumericSuffix.text

def suffixMultiplier (suffix : Option NumericSuffix) : Nat :=
  suffix.elim 1 NumericSuffix.multiplier

theorem parseUnit_iff {text : Bytes} {unit : QuantityUnit} :
    parseUnit text = .ok unit ↔ unit ≠ .none ∧ text = unitName unit := by
  unfold parseUnit
  constructor
  · intro h
    split at h
    · rename_i found hFound
      obtain rfl := Except.ok.inj h
      have hMatch := List.find?_some hFound
      rw [Bool.and_eq_true, bne_iff_ne, beq_iff_eq] at hMatch
      exact ⟨hMatch.1, hMatch.2.symm⟩
    · cases h
  · rintro ⟨hUnit, rfl⟩
    cases unit <;> first | exact absurd rfl hUnit | decide

theorem suffix_unitChars (suffix : Option NumericSuffix) :
    (suffixText suffix).all isUnitChar = true := by
  cases suffix with
  | none => rfl
  | some suffix => cases suffix <;> decide

theorem unitName_unitChars (unit : QuantityUnit) : (unitName unit).all isUnitChar = true := by
  cases unit <;> decide

/-- No unit starts like a suffix. -/
theorem suffix_not_prefix (suffix : NumericSuffix) (unit : QuantityUnit) :
    suffix.text.isPrefixOf (unitName unit) = false := by
  cases suffix <;> cases unit <;> decide

theorem parseUnit_suffixed (suffix : NumericSuffix) (text : Bytes) :
    (parseUnit (suffix.text ++ text)).toOption = none := by
  cases hUnit : parseUnit (suffix.text ++ text) with
  | error e => rfl
  | ok unit =>
      have hPrefix := suffix_not_prefix suffix unit
      rw [← (parseUnit_iff.1 hUnit).2,
        List.isPrefixOf_iff_prefix.2 (List.prefix_append _ _)] at hPrefix
      cases hPrefix

/-! ## Taking the text apart -/

/-- No digit and no character of a unit is a blank. -/
theorem not_blank {ch : UInt8} (h : isDigit ch = true ∨ isUnitChar ch = true) :
    isBlank ch = false := by
  by_contra hBlank
  rw [Bool.not_eq_false, isBlank, Bool.or_eq_true, beq_iff_eq, beq_iff_eq] at hBlank
  rcases hBlank with rfl | rfl <;> exact absurd h (by decide)

theorem not_unitChar {ch : UInt8} (h : isDigit ch = true) : isUnitChar ch = false := by
  have hApart := forall_byte (p := fun ch => !(isDigit ch && isUnitChar ch)) (by decide +kernel) ch
  simpa [h] using hApart

theorem trim_self {text : Bytes} (h : ∀ ch ∈ text, isBlank ch = false) : trim text = text := by
  have hFront : text.dropWhile isBlank = text := by
    cases text with
    | nil => rfl
    | cons ch rest => rw [List.dropWhile_cons_of_neg (by simp [h ch (List.mem_cons_self ..)])]
  rw [trim, hFront, List.rdropWhile_eq_self_iff]
  exact fun hNonempty => by simp [h _ (List.getLast_mem hNonempty)]

section Pieces

variable {digits tail : Bytes}

/-- The letters at the end of the text are the suffix and the unit. -/
theorem number_part (hDigits : ∀ ch ∈ digits, isDigit ch = true)
    (hTail : ∀ ch ∈ tail, isUnitChar ch = true) :
    (digits ++ tail).rdropWhile isUnitChar = digits := by
  rw [List.rdropWhile, List.reverse_append,
    List.dropWhile_append_of_pos fun ch hMem => hTail ch (List.mem_reverse.1 hMem)]
  refine List.rdropWhile_eq_self_iff.2 fun hNonempty => ?_
  simp [not_unitChar (hDigits _ (List.getLast_mem hNonempty))]

theorem unit_part (hDigits : ∀ ch ∈ digits, isDigit ch = true)
    (hTail : ∀ ch ∈ tail, isUnitChar ch = true) :
    (digits ++ tail).rtakeWhile isUnitChar = tail := by
  have hParts := @List.rdropWhile_append_rtakeWhile _ isUnitChar (digits ++ tail)
  rw [number_part hDigits hTail] at hParts
  exact List.append_cancel_left hParts

/-- A number of digits has no suffix left. -/
theorem cutSuffix_digits (hDigits : ∀ ch ∈ digits, isDigit ch = true) :
    cutSuffix digits = (digits, 1) := by
  have hLetters : ∀ suffix ∈ quantitySuffixes, ∃ ch ∈ suffix.1, isDigit ch = false := by
    decide
  have hNone : quantitySuffixes.find? (fun suffix => digits.length > suffix.1.length &&
      digits.drop (digits.length - suffix.1.length) == suffix.1) = none := by
    rw [List.find?_eq_none]
    intro suffix hMem hFound
    rw [Bool.and_eq_true, beq_iff_eq] at hFound
    obtain ⟨ch, hCh, hLetter⟩ := hLetters suffix hMem
    rw [← hFound.2] at hCh
    rw [hDigits ch (List.mem_of_mem_drop hCh)] at hLetter
    cases hLetter
  rw [cutSuffix, hNone]

/-- What `ParseQuantity` does with digits and letters: the letters are the unit. -/
theorem parseQuantity_parts (hDigits : ∀ ch ∈ digits, isDigit ch = true)
    (hTail : ∀ ch ∈ tail, isUnitChar ch = true) (defaultUnit : Bytes) :
    parseQuantity (digits ++ tail) defaultUnit = (do
      let value ← parseU64 digits
      let product ← (checkedMul value 1).toOption
      if product > kMaxQuantity then none
      else
        let unit ← (parseUnit (if tail.isEmpty then defaultUnit else tail)).toOption
        (CapabilityValue.quantityValue product unit).toOption) := by
  have hTrim : trim (digits ++ tail) = digits ++ tail := trim_self fun ch hMem =>
    not_blank ((List.mem_append.1 hMem).imp (hDigits ch) (hTail ch))
  have hUnit : trim tail = tail := trim_self fun ch hMem => not_blank (.inr (hTail ch hMem))
  unfold parseQuantity
  simp only [hTrim, number_part hDigits hTail, unit_part hDigits hTail, hUnit,
    cutSuffix_digits hDigits]

end Pieces

theorem checkedMul_one (value : UInt64) : checkedMul value 1 = .ok value := by
  have hFits : ¬(value != 0 && decide (1 > 0xFFFFFFFFFFFFFFFF / value)) = true := by
    rw [Bool.and_eq_true, bne_iff_ne, decide_eq_true_eq, not_and]
    intro hZero hOver
    have hPos : 0 < value.toNat := Nat.pos_of_ne_zero fun h => hZero (UInt64.toNat_inj.1 h)
    have hLt := UInt64.lt_iff_toNat_lt.1 hOver
    rw [UInt64.toNat_div] at hLt
    have hLe : value.toNat ≤ (0xFFFFFFFFFFFFFFFF : UInt64).toNat := Nat.le_of_lt_succ value.toNat_lt
    exact absurd (Nat.div_pos hLe hPos) (Nat.not_lt.2 (Nat.le_of_lt_succ hLt))
  rw [checkedMul, if_neg hFits, UInt64.mul_one]

/-! ## Quantities -/

/-- The value of an accepted number is within the bound. -/
theorem parseU64_le {text : Bytes} {value : UInt64} (h : parseU64 text = some value) :
    value ≤ kMaxQuantity := by
  obtain ⟨-, hPrefixes, hOut⟩ := parseU64_iff.1 h
  rw [UInt64.le_iff_toNat_le, hOut]
  exact hPrefixes text (List.prefix_refl _)

/-- The text of a unit that is written out or left to the default. -/
structure NamesUnit (unitText defaultUnit name : Bytes) : Prop where
  letters : ∀ ch ∈ unitText, isUnitChar ch = true
  chosen : (if unitText.isEmpty then defaultUnit else unitText) = name

theorem namesUnit {unitText defaultUnit : Bytes} {unit : QuantityUnit}
    (h : unitText = unitName unit ∨ unitText = [] ∧ defaultUnit = unitName unit) :
    NamesUnit unitText defaultUnit (unitName unit) := by
  rcases h with rfl | ⟨rfl, rfl⟩
  · refine ⟨List.all_eq_true.1 (unitName_unitChars unit), ?_⟩
    cases unit <;> rfl
  · exact ⟨nofun, rfl⟩

/-- Without a suffix, `ParseQuantity` is `ParseU64` in the unit. -/
theorem parseQuantity_plain {digits unitText defaultUnit name : Bytes} {unit : QuantityUnit}
    (hDigits : ∀ ch ∈ digits, isDigit ch = true) (hName : parseUnit name = .ok unit)
    (hUnit : NamesUnit unitText defaultUnit name) :
    parseQuantity (digits ++ unitText) defaultUnit =
      (parseU64 digits).bind fun value =>
        (CapabilityValue.quantityValue value unit).toOption := by
  rw [parseQuantity_parts hDigits hUnit.letters, hUnit.chosen, hName]
  cases hParse : parseU64 digits with
  | none => rfl
  | some value =>
      have hBound := UInt64.not_lt.2 (parseU64_le hParse)
      simp [checkedMul_one, Except.toOption, hBound]

/-- With a suffix it fails, since the suffix is taken for a part of the unit. -/
theorem parseQuantity_suffixed {digits unitText defaultUnit : Bytes} {suffix : NumericSuffix}
    (hDigits : ∀ ch ∈ digits, isDigit ch = true)
    (hUnit : ∀ ch ∈ unitText, isUnitChar ch = true) :
    parseQuantity (digits ++ (suffix.text ++ unitText)) defaultUnit = none := by
  have hTail : ∀ ch ∈ suffix.text ++ unitText, isUnitChar ch = true := by
    intro ch hMem
    rcases List.mem_append.1 hMem with hSuffix | hHere
    · exact List.all_eq_true.1 (suffix_unitChars (some suffix)) ch hSuffix
    · exact hUnit ch hHere
  have hNonempty : (suffix.text ++ unitText).isEmpty = false := by
    cases suffix <;> rfl
  rw [parseQuantity_parts hDigits hTail, hNonempty, if_neg Bool.false_ne_true,
    parseUnit_suffixed]
  cases parseU64 digits with
  | none => rfl
  | some value => simp [checkedMul_one, Except.toOption]

theorem storage_of_quantityValue {value : UInt64} {unit : QuantityUnit} {result : CapabilityValue}
    (h : CapabilityValue.quantityValue value unit = .ok result) :
    result.storage = .quantity ⟨value, unit⟩ := by
  unfold CapabilityValue.quantityValue at h
  split at h
  · cases h
  · split at h
    · cases h
    · obtain rfl := Except.ok.inj h
      rfl

theorem quantityValue_isOk {value : UInt64} {unit : QuantityUnit} (hUnit : unit ≠ .none)
    (h : value ≤ kMaxQuantity) : ∃ result, CapabilityValue.quantityValue value unit = .ok result :=
  ⟨_, @CapabilityValue.quantityValue_of_wellFormed ⟨value, unit⟩
    (by simp [ValueStorage.wellFormed, isQuantityUnit, hUnit, h])⟩

/-- The quantity a text denotes: a number, perhaps a suffix, and a unit that stands in the
text or is the default. -/
def ReadsQuantity (digits : Bytes) (suffix : Option NumericSuffix) (unitText defaultUnit : Bytes)
    (unit : QuantityUnit) : Prop :=
  (digitsValue digits * suffixMultiplier suffix ≤ kMaxQuantity.toNat →
      ∃ value, parseQuantity (digits ++ (suffixText suffix ++ unitText)) defaultUnit = some value ∧
        value.storage =
          .quantity ⟨UInt64.ofNat (digitsValue digits * suffixMultiplier suffix), unit⟩) ∧
    (kMaxQuantity.toNat < digitsValue digits * suffixMultiplier suffix →
      parseQuantity (digits ++ (suffixText suffix ++ unitText)) defaultUnit = none)

/-- `ParseQuantity` reads a number without a suffix when `ParseU64` does.  With a suffix it
always fails, which is right only when the product exceeds the bound. -/
theorem quantity_exact_iff (digits : Bytes) (suffix : Option NumericSuffix)
    (unit : QuantityUnit) (name unitText defaultUnit : Bytes) (hNumber : IsNumber digits)
    (hName : parseUnit name = .ok unit)
    (hUnit : unitText = name ∨ unitText = [] ∧ defaultUnit = name) :
    ReadsQuantity digits suffix unitText defaultUnit unit ↔
      match suffix with
      | none => StopsInTime digits
      | some suffix => kMaxQuantity.toNat < digitsValue digits * suffix.multiplier := by
  obtain ⟨hQuantity, rfl⟩ := parseUnit_iff.1 hName
  have hNames := namesUnit hUnit
  unfold ReadsQuantity
  cases suffix with
  | none =>
      simp only [suffixText, suffixMultiplier, Option.elim_none, Nat.mul_one, List.nil_append]
      rw [parseQuantity_plain hNumber.2 hName hNames]
      by_cases hFits : digitsValue digits ≤ kMaxQuantity.toNat
      · have hWord : (UInt64.ofNat (digitsValue digits)) ≤ kMaxQuantity := by
          rw [UInt64.le_iff_toNat_le, UInt64.toNat_ofNat_of_lt' (hFits.trans_lt kMaxQuantity_lt)]
          exact hFits
        obtain ⟨result, hResult⟩ := quantityValue_isOk hQuantity hWord
        refine iff_of_true ⟨fun _ => ⟨result, ?_, storage_of_quantityValue hResult⟩,
          fun hOver => absurd hFits (Nat.not_le.2 hOver)⟩ (.inl hFits)
        rw [parseU64_of_fits hNumber hFits, Option.bind_some, hResult]
        rfl
      · have hOver := Nat.not_le.1 hFits
        rw [← parseU64_eq_none hNumber hOver]
        constructor
        · rintro ⟨-, hNone⟩
          cases hParse : parseU64 digits with
          | none => rfl
          | some value =>
              obtain ⟨result, hResult⟩ := quantityValue_isOk hQuantity (parseU64_le hParse)
              have hBuilt := hNone hOver
              rw [hParse, Option.bind_some, hResult] at hBuilt
              cases hBuilt
        · intro hNone
          rw [hNone]
          exact ⟨fun h => absurd h hFits, fun _ => rfl⟩
  | some suffix =>
      simp only [suffixText, suffixMultiplier, Option.elim_some]
      rw [parseQuantity_suffixed hNumber.2 hNames.letters]
      constructor
      · rintro ⟨hReads, -⟩
        by_contra hSmall
        obtain ⟨value, hSome, -⟩ := hReads (Nat.not_lt.1 hSmall)
        cases hSome
      · exact fun hOver => ⟨fun h => absurd h (Nat.not_le.2 hOver), fun _ => rfl⟩

/-- A number without a suffix, in a unit of its own. -/
theorem plain_quantity_read :
    ReadsQuantity (txt "100") none (txt "bit/s") [] .bitsPerSecond :=
  (quantity_exact_iff (txt "100") none .bitsPerSecond (txt "bit/s") (txt "bit/s") []
    ⟨by decide, List.all_eq_true.1 (by decide)⟩ (by decide) (.inl rfl)).2 (.inl (by decide))

/-- `10k` with the default unit is refused, although a thousand tens are a quantity. -/
theorem suffixed_quantity_refused :
    ¬ReadsQuantity (txt "10") (some .kilo) [] (txt "count") .count := by
  intro h
  exact absurd ((quantity_exact_iff (txt "10") (some .kilo) .count (txt "count") []
    (txt "count") ⟨by decide, List.all_eq_true.1 (by decide)⟩ (by decide) (.inr ⟨rfl, rfl⟩)).1 h)
    (by decide)

end FabricCapability.Ports

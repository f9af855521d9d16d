import Mathlib.Algebra.GroupWithZero.Nat
import Mathlib.Data.List.Basic
import Mathlib.Tactic.Common

/-!
# Byte codecs: little-endian words, readers and what they decode

A hand-written binary format is a pair of functions kept in step by hand: a
writer that appends fields to a buffer and a reader that consumes them in the
same order.  This module supplies the vocabulary in which such a pair is
compared.

* `leBytes` / `leValue` are the little-endian rendering of a natural number in a
  fixed number of bytes and its inverse.
* `Reader ε α` is a reader that consumes a prefix of a byte list or fails.
* `Decodes rd bs r` says what the reader `rd` does when the bytes in front of it
  start with `bs`: it consumes exactly `bs` and returns `a` (when `r` is
  `some a`), or it fails (when `r` is `none`), whatever follows.
* `Yields rd P` says that all that the reader `rd` returns satisfies `P`.
* `Relaxes loose rd R` says that a reader with fewer checks reads the same bytes wherever `rd`
  succeeds.
* `emit` concatenates the encodings of the fields of a record and fails with
  the first field that fails.
* `ReadsBack rd written r` compares a reader with a writer that may fail.

`Decodes` and `ReadsBack` compose along `bind`, so the result of reading a record back is
computed field by field, refusals included.

## Main results

* `leValue_leBytes`, `leBytes_leValue` — a value that fits its width is read back, and
  every byte list is the rendering of a value.
* `Decodes.bind` — decoding a sequence of fields is the composition of the
  results of decoding each of them.
* `Decodes.readTimes` — a counted list is decoded element by element.
* `Yields.bind`, `Yields.times` — what the reader of a record has checked of its fields.
* `emit_cons_eq_ok` — inversion of a record writer, one field at a time.
* `ReadsBack.bind`, `ReadsBack.readTimes` — a record is read back field by field, a
  list of records record by record.
-/

namespace FabricCapability.Verified.ByteCodec

/-! ## Little-endian words -/

/-- The `w` low bytes of `v`, least significant byte first. -/
def leBytes : Nat → Nat → List UInt8
  | 0, _ => []
  | w + 1, v => UInt8.ofNat (v % 256) :: leBytes w (v / 256)

/-- The natural number whose little-endian bytes are the given ones. -/
def leValue : List UInt8 → Nat
  | [] => 0
  | b :: bs => b.toNat + 256 * leValue bs

@[simp] theorem length_leBytes (w v : Nat) : (leBytes w v).length = w := by
  induction w generalizing v with
  | zero => rfl
  | succ w ih => simp [leBytes, ih]

/-- Reading back `w` bytes recovers the value modulo `256 ^ w`. -/
theorem leValue_leBytes_mod (w v : Nat) :
    leValue (leBytes w v) = v % 256 ^ w := by
  induction w generalizing v with
  | zero => simp [leBytes, leValue, Nat.mod_one]
  | succ w ih =>
      have hByte : (UInt8.ofNat (v % 256)).toNat = v % 256 := by simp
      rw [leBytes, leValue, ih, hByte, Nat.pow_succ, Nat.mul_comm (256 ^ w) 256,
        Nat.mod_mul]

theorem leValue_leBytes {w v : Nat} (hv : v < 256 ^ w) :
    leValue (leBytes w v) = v := by
  rw [leValue_leBytes_mod, Nat.mod_eq_of_lt hv]

/-- A byte list denotes a number below the size of its width. -/
theorem leValue_lt (bs : List UInt8) : leValue bs < 256 ^ bs.length := by
  induction bs with
  | nil => simp [leValue]
  | cons b bs ih =>
      have hb : b.toNat < 256 := b.toNat_lt
      simp only [leValue, List.length_cons, Nat.pow_succ]
      omega

/-- Every byte list is the rendering of the number it denotes. -/
theorem leBytes_leValue (bs : List UInt8) : leBytes bs.length (leValue bs) = bs := by
  induction bs with
  | nil => rfl
  | cons b bs ih =>
      have hb : b.toNat < 256 := b.toNat_lt
      have hLow : (b.toNat + 256 * leValue bs) % 256 = b.toNat := by omega
      have hHigh : (b.toNat + 256 * leValue bs) / 256 = leValue bs := by omega
      rw [List.length_cons, leValue, leBytes, hLow, hHigh, ih, UInt8.ofNat_toNat]

/-! ## Readers -/

/-- A reader consumes a prefix of the bytes in front of it, or fails. -/
abbrev Reader (ε α : Type) := StateT (List UInt8) (Except ε) α

section Reader

variable {ε α β : Type}

/-- Fail without looking at the input. -/
def fail (e : ε) : Reader ε α := fun _ => .error e

/-- The number of bytes that have not been consumed yet. -/
def remaining : Reader ε Nat := fun bs => .ok (bs.length, bs)

/-- Consume exactly `n` bytes, or fail with `e` when fewer are left. -/
def readExact (n : Nat) (e : ε) : Reader ε (List UInt8) := fun bs =>
  if bs.length < n then .error e else .ok (bs.take n, bs.drop n)

/-- Lift a check of data already read into the reader. -/
def accept : Except ε α → Reader ε α
  | .ok a => fun bs => .ok (a, bs)
  | .error e => fail e

/-- Run a reader `n` times and collect the results. -/
def readTimes (rd : Reader ε α) : Nat → Reader ε (List α)
  | 0 => pure []
  | n + 1 => do
      let a ← rd
      let as ← readTimes rd n
      pure (a :: as)

/-- A successful run of two readers in a row is a successful run of each. -/
theorem bind_eq_ok {rd : Reader ε α} {f : α → Reader ε β} {bs : List UInt8}
    {r : β × List UInt8} :
    (rd >>= f) bs = .ok r ↔ ∃ a rest, rd bs = .ok (a, rest) ∧ f a rest = .ok r := by
  change (rd bs >>= fun p => f p.1 p.2) = .ok r ↔ _
  cases rd bs with
  | error e => simp [bind, Except.bind]
  | ok p => simp [bind, Except.bind, Prod.ext_iff]

theorem readExact_eq_ok {n : Nat} {e : ε} {bs out rest : List UInt8} :
    readExact n e bs = .ok (out, rest) ↔
      n ≤ bs.length ∧ out = bs.take n ∧ rest = bs.drop n := by
  unfold readExact
  split
  · rename_i hLen
    simp [Nat.not_le.2 hLen]
  · rename_i hLen
    simp [Nat.not_lt.1 hLen, eq_comm]

theorem accept_eq_ok {x : Except ε α} {bs rest : List UInt8} {a : α} :
    accept x bs = .ok (a, rest) ↔ x = .ok a ∧ rest = bs := by
  cases x with
  | ok b => simp [accept, eq_comm]
  | error e => simp [accept, fail]

/-- What a reader does in front of `bs`, whatever follows `bs`: it consumes
exactly `bs` and returns the value, or it fails. -/
def Decodes (rd : Reader ε α) (bs : List UInt8) : Option α → Prop
  | some a => ∀ rest, rd (bs ++ rest) = .ok (a, rest)
  | none => ∀ rest, ∃ e, rd (bs ++ rest) = .error e

namespace Decodes

theorem pure (a : α) : Decodes (Pure.pure a : Reader ε α) [] (some a) :=
  fun _ => rfl

theorem fail (e : ε) (bs : List UInt8) :
    Decodes (ByteCodec.fail e : Reader ε α) bs none :=
  fun _ => ⟨e, rfl⟩

theorem accept (x : Except ε α) :
    Decodes (ByteCodec.accept x) [] x.toOption := by
  cases x with
  | ok a => exact fun _ => rfl
  | error e => exact fun _ => ⟨e, rfl⟩

theorem readExact (bs : List UInt8) (e : ε) :
    Decodes (ByteCodec.readExact bs.length e) bs (some bs) := by
  intro rest
  simp [ByteCodec.readExact]

/-- Decoding two fields in a row: the second reader may depend on the value
of the first, and a failure of the first is a failure of the whole. -/
theorem bind {rd : Reader ε α} {f : α → Reader ε β} {bs bs' : List UInt8}
    {r : Option α} {g : α → Option β} (hFirst : Decodes rd bs r)
    (hRest : ∀ a, r = some a → Decodes (f a) bs' (g a)) :
    Decodes (rd >>= f) (bs ++ bs') (r.bind g) := by
  have run : ∀ rest, (rd >>= f) (bs ++ bs' ++ rest) =
      (rd (bs ++ (bs' ++ rest))) >>= fun p => f p.1 p.2 := by
    intro rest
    rw [List.append_assoc]
    rfl
  cases r with
  | none =>
      intro rest
      obtain ⟨e, he⟩ := hFirst (bs' ++ rest)
      exact ⟨e, by rw [run, he]; rfl⟩
  | some a =>
      have hSecond := hRest a rfl
      cases hg : g a with
      | none =>
          rw [hg] at hSecond
          simp only [Option.bind_some, hg]
          intro rest
          obtain ⟨e, he⟩ := hSecond rest
          exact ⟨e, by rw [run, hFirst]; exact he⟩
      | some b =>
          rw [hg] at hSecond
          simp only [Option.bind_some, hg]
          intro rest
          rw [run, hFirst]
          exact hSecond rest

/-- `bind` for a first field that is read back as it was written. -/
theorem bind_some {rd : Reader ε α} {f : α → Reader ε β} {bs bs' : List UInt8}
    {a : α} {r : Option β} (hFirst : Decodes rd bs (some a))
    (hRest : Decodes (f a) bs' r) : Decodes (rd >>= f) (bs ++ bs') r := by
  have h := bind (g := fun _ => r) hFirst (fun a' ha => by cases ha; exact hRest)
  simpa using h

/-- The last field of a record: nothing is read after it. -/
theorem bind_last {rd : Reader ε α} {f : α → Reader ε β} {bs : List UInt8} {r : Option α}
    {g : α → Option β} (hFirst : Decodes rd bs r)
    (hRest : ∀ a, r = some a → Decodes (f a) [] (g a)) :
    Decodes (rd >>= f) bs (r.bind g) := by
  have h := bind hFirst hRest
  rwa [List.append_nil] at h

/-- A failing first field makes the whole reader fail. -/
theorem bind_none {rd : Reader ε α} {f : α → Reader ε β} {bs : List UInt8}
    (hFirst : Decodes rd bs none) (bs' : List UInt8) :
    Decodes (rd >>= f) (bs ++ bs') none := by
  have h : Decodes (rd >>= f) (bs ++ bs') (none.bind fun _ => none) :=
    bind hFirst (fun a ha => by cases ha)
  simpa using h

/-- A reader that fails in front of `bs` fails whatever it is followed by. -/
theorem then_none {rd : Reader ε α} {f : α → Reader ε β} {bs : List UInt8}
    (hFirst : Decodes rd bs none) : Decodes (rd >>= f) bs none := by
  have h := bind_none (f := f) hFirst []
  rwa [List.append_nil] at h

/-- A field followed by a pure conversion of its value. -/
theorem map {rd : Reader ε α} {bs : List UInt8} {r : Option α} (f : α → β)
    (h : Decodes rd bs r) :
    Decodes (rd >>= fun a => Pure.pure (f a)) bs (r.map f) := by
  have hBind : Decodes (rd >>= fun a => Pure.pure (f a)) bs (r.bind fun a => some (f a)) :=
    bind_last h fun a _ => pure (f a)
  cases r <;> exact hBind

/-- A field followed by a check of its value. -/
theorem checked {rd : Reader ε α} {bs : List UInt8} {r : Option α}
    (g : α → Except ε β) (h : Decodes rd bs r) :
    Decodes (rd >>= fun a => ByteCodec.accept (g a)) bs
      (r.bind fun a => (g a).toOption) :=
  bind_last h fun a _ => accept (g a)

/-- A check that consumes nothing, followed by the rest of the record. -/
theorem check {x : Except ε α} {f : α → Reader ε β} {bs : List UInt8}
    {g : α → Option β} (hRest : ∀ a, x = .ok a → Decodes (f a) bs (g a)) :
    Decodes (ByteCodec.accept x >>= f) bs (x.toOption.bind g) := by
  have h : Decodes (ByteCodec.accept x >>= f) ([] ++ bs) (x.toOption.bind g) :=
    bind (accept x) (fun a ha => by
      cases x with
      | ok b => cases ha; exact hRest _ rfl
      | error e => cases ha)
  simpa using h

/-- A counted list is decoded element by element: it is read back when every
element is, and refused when one of them is. -/
theorem readTimes {γ : Type} {rd : Reader ε α} {enc : γ → List UInt8}
    {dec : γ → Option α} (xs : List γ)
    (hItem : ∀ x ∈ xs, Decodes rd (enc x) (dec x)) :
    Decodes (ByteCodec.readTimes rd xs.length) (xs.flatMap enc) (xs.mapM dec) := by
  induction xs with
  | nil => exact pure []
  | cons x xs ih =>
      rw [List.flatMap_cons, List.mapM_cons]
      refine bind (hItem x (List.mem_cons_self ..)) fun a _ => ?_
      exact bind_last (ih fun y hy => hItem y (List.mem_cons_of_mem _ hy))
        fun as _ => pure (a :: as)

/-- Mapping a guarded identity over a list succeeds when the guard holds of all
elements. -/
theorem mapM_guard {γ : Type} (p : γ → Bool) (xs : List γ) :
    (xs.mapM fun x => if p x then some x else none) =
      if xs.all p then some xs else none := by
  induction xs with
  | nil => rfl
  | cons x xs ih =>
      rw [List.mapM_cons, ih]
      cases hx : p x <;> cases hxs : xs.all p <;> simp [hx, hxs]

/-- A counted list of items that are read back or refused by a predicate. -/
theorem readTimes_guard {γ : Type} {rd : Reader ε γ} {enc : γ → List UInt8} {p : γ → Bool}
    (xs : List γ) (hItem : ∀ x ∈ xs, Decodes rd (enc x) (if p x then some x else none)) :
    Decodes (ByteCodec.readTimes rd xs.length) (xs.flatMap enc)
      (if xs.all p then some xs else none) := by
  rw [← mapM_guard]
  exact readTimes xs hItem

/-- A counted list of items that are all read back. -/
theorem readTimes_some {γ : Type} {rd : Reader ε γ} {enc : γ → List UInt8} (xs : List γ)
    (hItem : ∀ x ∈ xs, Decodes rd (enc x) (some x)) :
    Decodes (ByteCodec.readTimes rd xs.length) (xs.flatMap enc) (some xs) := by
  have h := readTimes_guard (p := fun _ => true) xs (by simpa using hItem)
  simpa using h

/-- A conditional field followed by the rest of the record. -/
theorem bind_if {rd : Reader ε α} {f : α → Reader ε β} {bs bs' : List UInt8} {a : α}
    {r : Option β} {p : Bool} (hFirst : Decodes rd bs (if p then some a else none))
    (hRest : Decodes (f a) bs' r) :
    Decodes (rd >>= f) (bs ++ bs') (if p then r else none) := by
  cases p with
  | true => exact bind_some hFirst hRest
  | false => exact bind_none hFirst bs'

/-- Two fields in a row, each read back or refused by a condition. -/
theorem bind_guard {rd : Reader ε α} {f : α → Reader ε β} {bs bs' : List UInt8} {a : α}
    {b : β} {p q : Bool} (hFirst : Decodes rd bs (if p then some a else none))
    (hRest : Decodes (f a) bs' (if q then some b else none)) :
    Decodes (rd >>= f) (bs ++ bs') (if p && q then some b else none) := by
  cases p with
  | true => exact bind_some hFirst hRest
  | false => exact bind_none hFirst bs'

/-- A conditional field followed by a pure conversion. -/
theorem map_guard {rd : Reader ε α} {bs : List UInt8} {a : α} {p : Bool} (f : α → β)
    (h : Decodes rd bs (if p then some a else none)) :
    Decodes (rd >>= fun a => Pure.pure (f a)) bs (if p then some (f a) else none) := by
  have hMap := map f h
  cases p <;> exact hMap

/-- A conditional field followed by a check that its value passes. -/
theorem checked_guard {rd : Reader ε α} {bs : List UInt8} {a : α} {b : β} {p : Bool}
    {g : α → Except ε β} (hCheck : g a = .ok b)
    (h : Decodes rd bs (if p then some a else none)) :
    Decodes (rd >>= fun a => ByteCodec.accept (g a)) bs (if p then some b else none) := by
  have hChecked := checked g h
  cases p with
  | true => rwa [if_pos rfl, Option.bind_some, hCheck] at hChecked
  | false => exact hChecked

/-- A reader that decodes `bs` and stops there decodes the whole input. -/
theorem run_eq_ok {rd : Reader ε α} {bs : List UInt8} {r : Option α} {a : α}
    (h : Decodes rd bs r) : rd bs = .ok (a, []) ↔ r = some a := by
  cases r with
  | none =>
      obtain ⟨e, he⟩ := h []
      rw [List.append_nil] at he
      simp [he]
  | some b =>
      have hb := h []
      rw [List.append_nil] at hb
      simp [hb]

end Decodes

/-! ## What a reader yields -/

/-- Every value that the reader returns satisfies `P`. -/
def Yields (rd : Reader ε α) (P : α → Prop) : Prop :=
  ∀ bs a rest, rd bs = .ok (a, rest) → P a

section Yields

variable {rd : Reader ε α} {P : α → Prop} {Q : β → Prop}

theorem Yields.any (rd : Reader ε α) : Yields rd fun _ => True := fun _ _ _ _ => trivial

theorem Yields.pure {a : α} (h : P a) : Yields (Pure.pure a : Reader ε α) P := by
  intro bs b rest hRead
  cases hRead
  exact h

theorem Yields.bind {f : α → Reader ε β} (hFirst : Yields rd P)
    (hThen : ∀ a, P a → Yields (f a) Q) : Yields (rd >>= f) Q := by
  intro bs b rest hRead
  obtain ⟨a, between, hRead, hRest⟩ := bind_eq_ok.1 hRead
  exact hThen a (hFirst _ _ _ hRead) _ _ _ hRest

/-- A field that nothing is asked of. -/
theorem Yields.skip {f : α → Reader ε β} (hThen : ∀ a, Yields (f a) Q) :
    Yields (rd >>= f) Q :=
  Yields.bind (.any rd) fun a _ => hThen a

theorem Yields.accept {checked : Except ε α} (h : ∀ a, checked = .ok a → P a) :
    Yields (accept checked) P := fun _ a _ hRead => h a (accept_eq_ok.1 hRead).1

/-- A check that fails or lets the reader go on. -/
theorem Yields.checked {e : ε} {c : Prop} [Decidable c] (h : ¬ c → Yields rd P) :
    Yields (if c then fail e else rd) P := by
  intro bs a rest hRead
  by_cases hFails : c
  · rw [if_pos hFails] at hRead
    cases hRead
  · rw [if_neg hFails] at hRead
    exact h hFails _ _ _ hRead

theorem Yields.times (h : Yields rd P) (count : Nat) :
    Yields (readTimes rd count) fun as => as.length = count ∧ ∀ a ∈ as, P a := by
  induction count with
  | zero => exact Yields.pure ⟨rfl, fun _ hMem => by cases hMem⟩
  | succ count ih =>
      refine Yields.bind h fun a hFirst => Yields.bind ih fun as hRest => Yields.pure ?_
      exact ⟨congrArg (· + 1) hRest.1, List.forall_mem_cons.2 ⟨hFirst, hRest.2⟩⟩

end Yields

/-! ## Readers with fewer checks -/

/-- Where `rd` succeeds, `loose` reads the same bytes, to a value in the relation `R`. -/
def Relaxes (loose : Reader ε β) (rd : Reader ε α) (R : α → β → Prop) : Prop :=
  ∀ bs a rest, rd bs = .ok (a, rest) → ∃ b, loose bs = .ok (b, rest) ∧ R a b

section Relaxes

variable {γ δ : Type} {rd : Reader ε α} {loose : Reader ε β} {R : α → β → Prop}
  {S : γ → δ → Prop}

theorem Relaxes.refl (rd : Reader ε α) : Relaxes rd rd fun a b => b = a :=
  fun _ a _ hRead => ⟨a, hRead, rfl⟩

theorem Relaxes.pure {a : α} {b : β} (h : R a b) :
    Relaxes (Pure.pure b : Reader ε β) (Pure.pure a) R := by
  intro bs c rest hRead
  cases hRead
  exact ⟨b, rfl, h⟩

theorem Relaxes.bind {f : α → Reader ε γ} {g : β → Reader ε δ} (hFirst : Relaxes loose rd R)
    (hThen : ∀ a b, R a b → Relaxes (g b) (f a) S) : Relaxes (loose >>= g) (rd >>= f) S := by
  intro bs c rest hRead
  obtain ⟨a, between, hRead, hRest⟩ := bind_eq_ok.1 hRead
  obtain ⟨b, hLoose, hRelated⟩ := hFirst _ _ _ hRead
  obtain ⟨d, hLast, hResult⟩ := hThen a b hRelated _ _ _ hRest
  exact ⟨d, bind_eq_ok.2 ⟨b, between, hLoose, hLast⟩, hResult⟩

/-- What only `rd` does with what it has read, without reading on. -/
theorem Relaxes.unread {f : α → Reader ε γ} {Q : γ → β → Prop} (hFirst : Relaxes loose rd R)
    (hThen : ∀ a b, R a b → ∀ bs c rest, f a bs = .ok (c, rest) → rest = bs ∧ Q c b) :
    Relaxes loose (rd >>= f) Q := by
  intro bs c rest hRead
  obtain ⟨a, between, hRead, hLast⟩ := bind_eq_ok.1 hRead
  obtain ⟨b, hLoose, hRelated⟩ := hFirst _ _ _ hRead
  obtain ⟨rfl, hResult⟩ := hThen a b hRelated _ _ _ hLast
  exact ⟨b, hLoose, hResult⟩

theorem Relaxes.times (h : Relaxes loose rd R) (count : Nat) :
    Relaxes (readTimes loose count) (readTimes rd count) (List.Forall₂ R) := by
  induction count with
  | zero => exact .pure .nil
  | succ count ih =>
      exact .bind h fun a b hFirst => .bind ih fun as bs hRest => .pure (.cons hFirst hRest)

end Relaxes

end Reader

/-! ## Writers -/

section Writer

variable {ε : Type}

/-- Concatenate the encodings of the fields of a record; the first field that
cannot be encoded fails the record. -/
def emit : List (Except ε (List UInt8)) → Except ε (List UInt8)
  | [] => .ok []
  | field :: fields =>
      match field, emit fields with
      | .error e, _ => .error e
      | .ok _, .error e => .error e
      | .ok bs, .ok bs' => .ok (bs ++ bs')

@[simp] theorem emit_nil_eq_ok {out : List UInt8} :
    emit ([] : List (Except ε (List UInt8))) = .ok out ↔ out = [] := by
  simp [emit, eq_comm]

/-- A record is encoded exactly when its first field and the others are. -/
theorem emit_cons_eq_ok {field : Except ε (List UInt8)}
    {fields : List (Except ε (List UInt8))} {out : List UInt8} :
    emit (field :: fields) = .ok out ↔
      ∃ bs bs', field = .ok bs ∧ emit fields = .ok bs' ∧ out = bs ++ bs' := by
  cases field with
  | error e => simp [emit]
  | ok bs =>
      cases hRest : emit fields with
      | error e => simp [emit, hRest]
      | ok bs' => simp [emit, hRest, eq_comm]

/-- Every field of a record is written, and is no longer than the record. -/
theorem emit_mem {field : Except ε (List UInt8)} {fields : List (Except ε (List UInt8))}
    {out : List UInt8} (h : emit fields = .ok out) (hMem : field ∈ fields) :
    ∃ bs, field = .ok bs ∧ bs.length ≤ out.length := by
  induction fields generalizing out with
  | nil => cases hMem
  | cons first fields ih =>
      obtain ⟨bs, bs', hFirst, hFields, rfl⟩ := emit_cons_eq_ok.1 h
      rw [List.length_append]
      rcases List.mem_cons.1 hMem with rfl | hMem
      · exact ⟨bs, hFirst, by omega⟩
      · obtain ⟨other, hOther, hLength⟩ := ih hFields hMem
        exact ⟨other, hOther, by omega⟩

/-- A list of items whose encodings all succeed is the concatenation of their
encodings. -/
theorem emit_map_eq_ok {α : Type} {enc : α → Except ε (List UInt8)} {xs : List α}
    {out : List UInt8} (h : emit (xs.map enc) = .ok out) :
    ∃ f : α → List UInt8, (∀ x ∈ xs, enc x = .ok (f x)) ∧ out = xs.flatMap f := by
  refine ⟨fun x => (enc x).toOption.getD [], ?_, ?_⟩
  · induction xs generalizing out with
    | nil => simp
    | cons x xs ih =>
        obtain ⟨bs, bs', hx, hxs, -⟩ := emit_cons_eq_ok.1 h
        intro y hy
        rcases List.mem_cons.1 hy with rfl | hy
        · simp [hx, Except.toOption]
        · exact ih hxs y hy
  · induction xs generalizing out with
    | nil => simpa using h
    | cons x xs ih =>
        obtain ⟨bs, bs', hx, hxs, rfl⟩ := emit_cons_eq_ok.1 h
        rw [List.flatMap_cons, ← ih hxs, hx]
        rfl

/-- The output of a record is not empty when that of its first field is not. -/
theorem emit_ne_nil {field : Except ε (List UInt8)} {fields : List (Except ε (List UInt8))}
    {out : List UInt8} (hField : ∀ bs, field = .ok bs → bs ≠ [])
    (h : emit (field :: fields) = .ok out) : out ≠ [] := by
  obtain ⟨bs, bs', hFirst, -, rfl⟩ := emit_cons_eq_ok.1 h
  exact fun hNil => hField bs hFirst (List.append_eq_nil_iff.1 hNil).1

/-- A record whose fields are all written is written. -/
theorem emit_total {fields : List (Except ε (List UInt8))}
    (h : ∀ field ∈ fields, ∃ bs, field = .ok bs) : ∃ out, emit fields = .ok out := by
  induction fields with
  | nil => exact ⟨[], rfl⟩
  | cons field fields ih =>
      obtain ⟨bs, hField⟩ := h field (List.mem_cons_self ..)
      obtain ⟨bs', hFields⟩ := ih fun other hMem => h other (List.mem_cons_of_mem _ hMem)
      exact ⟨bs ++ bs', emit_cons_eq_ok.2 ⟨bs, bs', hField, hFields, rfl⟩⟩

end Writer

/-! ## Readers against writers -/

section ReadsBack

variable {ε α β : Type}

/-- What a reader does in front of the bytes of a writer, when it writes any. -/
def ReadsBack (rd : Reader ε α) (written : Except ε (List UInt8)) (r : Option α) : Prop :=
  ∀ bs, written = .ok bs → Decodes rd bs r

namespace ReadsBack

/-- A field that is always written. -/
theorem ok {rd : Reader ε α} {bs : List UInt8} {r : Option α} (h : Decodes rd bs r) :
    ReadsBack rd (.ok bs) r := by
  intro bs' hEq
  cases hEq
  exact h

/-- The end of a record. -/
theorem done (a : α) : ReadsBack (pure a : Reader ε α) (emit []) (some a) := by
  intro bs h
  obtain rfl := emit_nil_eq_ok.1 h
  exact Decodes.pure a

section Fields

variable {rd : Reader ε α} {f : α → Reader ε β} {field : Except ε (List UInt8)}
  {fields : List (Except ε (List UInt8))}

/-- A record is read back field by field. -/
theorem bind {r : Option α} {g : α → Option β} (hFirst : ReadsBack rd field r)
    (hRest : ∀ a, r = some a → ReadsBack (f a) (emit fields) (g a)) :
    ReadsBack (rd >>= f) (emit (field :: fields)) (r.bind g) := by
  intro out h
  obtain ⟨bs, bs', hField, hFields, rfl⟩ := emit_cons_eq_ok.1 h
  exact Decodes.bind (hFirst bs hField) fun a ha => hRest a ha bs' hFields

/-- A field that is read back as it was written. -/
theorem bind_some {a : α} {r : Option β} (hFirst : ReadsBack rd field (some a))
    (hRest : ReadsBack (f a) (emit fields) r) :
    ReadsBack (rd >>= f) (emit (field :: fields)) r := by
  intro out h
  obtain ⟨bs, bs', hField, hFields, rfl⟩ := emit_cons_eq_ok.1 h
  exact Decodes.bind_some (hFirst bs hField) (hRest bs' hFields)

/-- A field that is read back under a condition. -/
theorem bind_if {a : α} {r : Option β} {p : Bool}
    (hFirst : ReadsBack rd field (if p then some a else none))
    (hRest : ReadsBack (f a) (emit fields) r) :
    ReadsBack (rd >>= f) (emit (field :: fields)) (if p then r else none) := by
  intro out h
  obtain ⟨bs, bs', hField, hFields, rfl⟩ := emit_cons_eq_ok.1 h
  exact Decodes.bind_if (hFirst bs hField) (hRest bs' hFields)

/-- Two conditions in a row. -/
theorem bind_guard {a : α} {b : β} {p q : Bool}
    (hFirst : ReadsBack rd field (if p then some a else none))
    (hRest : ReadsBack (f a) (emit fields) (if q then some b else none)) :
    ReadsBack (rd >>= f) (emit (field :: fields)) (if p && q then some b else none) := by
  intro out h
  obtain ⟨bs, bs', hField, hFields, rfl⟩ := emit_cons_eq_ok.1 h
  exact Decodes.bind_guard (hFirst bs hField) (hRest bs' hFields)

/-- A field that is refused. -/
theorem bind_none (hFirst : ReadsBack rd field none) :
    ReadsBack (rd >>= f) (emit (field :: fields)) none := by
  intro out h
  obtain ⟨bs, bs', hField, -, rfl⟩ := emit_cons_eq_ok.1 h
  exact Decodes.bind_none (hFirst bs hField) bs'

/-- A check among the fields: it writes nothing, and nothing is read for it. -/
theorem unread {r : Option α} (hField : ∀ bs, field = .ok bs → bs = [])
    (hRest : field = .ok [] → ReadsBack rd (emit fields) r) :
    ReadsBack rd (emit (field :: fields)) r := by
  intro out h
  obtain ⟨bs, bs', hFirst, hFields, rfl⟩ := emit_cons_eq_ok.1 h
  obtain rfl := hField bs hFirst
  exact hRest hFirst bs' hFields

end Fields

/-- A list of records is read back record by record. -/
theorem readTimes {γ : Type} {rd : Reader ε α} {write : γ → Except ε (List UInt8)}
    {reread : γ → Option α} (xs : List γ)
    (hItem : ∀ x ∈ xs, ReadsBack rd (write x) (reread x)) :
    ReadsBack (ByteCodec.readTimes rd xs.length) (emit (xs.map write)) (xs.mapM reread) := by
  intro out h
  obtain ⟨enc, hEnc, rfl⟩ := emit_map_eq_ok h
  exact Decodes.readTimes xs fun x hMem => hItem x hMem _ (hEnc x hMem)

end ReadsBack

end ReadsBack

end FabricCapability.Verified.ByteCodec

import Mathlib
import Memoryless.Name

/-!
# Forms

A `Form` says which byte strings stand for which values. `Reader.Reads` ties a reader to a form: the
reader takes a front off its input exactly if that front is in the form, whatever follows. The property
goes through binding, refining and repeating, so a reader put together from parts reads a form put
together in the same way.

The forms of integers and names come last. An integer may be padded up to the length that its width
allows (`Leb128.Spells`); `Leb128.u32_reads` and `Name.read_reads` say that exactly these forms are
read, and `Leb128.Groups.length_ofNat_le` that what is written is never longer than what was read.
-/

namespace Memoryless

/-- Which bytes stand for which value. -/
abbrev Form (α : Type) := Bytes → α → Prop

namespace Form

variable {α β : Type}

/-- A value, and after it one whose form may depend on it. -/
def andThen (first : Form α) (second : α → Form β) : Form β := fun s b =>
  ∃ front a back, s = front ++ back ∧ first front a ∧ second a back b

/-- Values in a row, each in the same form. -/
inductive Row (form : Form α) : Form (List α)
  | nil : Row form [] []
  | cons {front back : Bytes} {a : α} {others : List α} :
    form front a → Row form back others → Row form (front ++ back) (a :: others)

theorem Row.flatMap {form : Form α} {write : α → Bytes} {all : List α}
    (each : ∀ a ∈ all, form (write a) a) : Row form (all.flatMap write) all := by
  induction all with
  | nil => exact .nil
  | cons a all ih =>
      rw [List.flatMap_cons]
      exact .cons (each a List.mem_cons_self) (ih fun b member => each b (List.mem_cons_of_mem a member))

theorem Row.of_mem {form : Form α} {s : Bytes} {all : List α} (row : Row form s all) {a : α}
    (member : a ∈ all) : ∃ part, form part a := by
  induction row with
  | nil => cases member
  | cons here _ ih =>
      rcases List.mem_cons.mp member with rfl | later
      · exact ⟨_, here⟩
      · exact ih later

theorem Row.imp {form other : Form α} {s : Bytes} {all : List α} (row : Row form s all)
    (each : ∀ part a, form part a → other part a) : Row other s all := by
  induction row with
  | nil => exact .nil
  | cons here _ ih => exact .cons (each _ _ here) ih

theorem Row.eq_flatMap {write : α → Bytes} {s : Bytes} {all : List α}
    (row : Row (fun part a => part = write a) s all) : s = all.flatMap write := by
  induction row with
  | nil => rfl
  | cons here _ ih => rw [List.flatMap_cons, here, ih]

theorem Row.append {form : Form α} {s t : Bytes} {first second : List α} (left : Row form s first)
    (right : Row form t second) : Row form (s ++ t) (first ++ second) := by
  induction left with
  | nil => exact right
  | cons here _ ih =>
      rw [List.append_assoc]
      exact .cons here ih

theorem Row.split {form : Form α} {s : Bytes} {first second : List α}
    (row : Row form s (first ++ second)) :
    ∃ front back, s = front ++ back ∧ Row form front first ∧ Row form back second := by
  induction first generalizing s with
  | nil => exact ⟨[], s, rfl, .nil, row⟩
  | cons a first ih =>
      cases row with
      | @cons head _ _ _ here row =>
          obtain ⟨front, back, rfl, left, right⟩ := ih row
          exact ⟨head ++ front, back, (List.append_assoc ..).symm, .cons here left, right⟩

end Form

/-! ## Results -/

section Results

variable {α β ε other : Type} {result : Except ε α}

theorem map_ok_iff {f : α → β} {b : β} : result.map f = .ok b ↔ ∃ a, result = .ok a ∧ f a = b := by
  cases result with
  | error fault => simp [Except.map]
  | ok a => simp [Except.map]

theorem map_error_iff {f : α → β} {e : ε} : result.map f = .error e ↔ result = .error e := by
  cases result with
  | error fault => simp [Except.map]
  | ok a => simp [Except.map]

theorem mapError_ok_iff {f : ε → other} {a : α} : result.mapError f = .ok a ↔ result = .ok a := by
  cases result with
  | error fault => simp [Except.mapError]
  | ok b => simp [Except.mapError]

theorem ok_of_mapError {f : ε → other} {a : α} (run : result.mapError f = .ok a) : result = .ok a :=
  mapError_ok_iff.mp run

theorem mapError_error_iff {f : ε → other} {e : other} :
    result.mapError f = .error e ↔ ∃ fault, result = .error fault ∧ f fault = e := by
  cases result with
  | error fault => simp [Except.mapError]
  | ok a => simp [Except.mapError]

theorem ok_of_bind {f : α → Except ε β} {b : β} (run : (result >>= f) = .ok b) :
    ∃ a, result = .ok a ∧ f a = .ok b := by
  cases result with
  | error fault => cases run
  | ok a => exact ⟨a, rfl, run⟩

theorem bind_ok_iff {f : α → Except ε β} {b : β} :
    (result >>= f) = .ok b ↔ ∃ a, result = .ok a ∧ f a = .ok b := by
  refine ⟨ok_of_bind, ?_⟩
  rintro ⟨a, rfl, run⟩
  exact run

theorem bind_error_iff {f : α → Except ε β} {e : ε} :
    (result >>= f) = .error e ↔ result = .error e ∨ ∃ a, result = .ok a ∧ f a = .error e := by
  cases result with
  | error fault => simp [bind, Except.bind]
  | ok a => simp [bind, Except.bind]

end Results

/-! ## Readers -/

namespace Reader

variable {α β : Type}

/-- `r` takes exactly the fronts that are in the form. -/
structure Reads (r : Reader α) (form : Form α) : Prop where
  taken : ∀ {s a rest}, r s = .ok (a, rest) → ∃ front, s = front ++ rest ∧ form front a
  accepted : ∀ {front a}, form front a → ∀ rest, r (front ++ rest) = .ok (a, rest)

variable {r : Reader α} {form : Form α}

theorem Reads.ok_iff (reads : r.Reads form) {s rest : Bytes} {a : α} :
    r s = .ok (a, rest) ↔ ∃ front, s = front ++ rest ∧ form front a := by
  refine ⟨reads.taken, fun parts => ?_⟩
  rcases parts with ⟨front, rfl, here⟩
  exact reads.accepted here rest

theorem Reads.whole (reads : r.Reads form) {s : Bytes} {a : α} :
    r s = .ok (a, []) ↔ form s a := by
  rw [reads.ok_iff]
  refine ⟨fun parts => ?_, fun here => ⟨s, (List.append_nil s).symm, here⟩⟩
  rcases parts with ⟨front, split, here⟩
  rw [List.append_nil] at split
  exact split ▸ here

/-- The end of a value does not depend on what follows. -/
theorem Reads.unique (reads : r.Reads form) {front other rest left : Bytes} {a : α}
    (one : form front a) (two : form other a) (same : front ++ rest = other ++ left) :
    front = other ∧ rest = left := by
  have run := reads.accepted one rest
  rw [same, reads.accepted two left] at run
  cases run
  exact ⟨List.append_cancel_right same, rfl⟩

theorem Reads.congr (reads : r.Reads form) {other : Form α} (same : ∀ s a, form s a ↔ other s a) :
    r.Reads other where
  taken run := by
    obtain ⟨front, split, here⟩ := reads.taken run
    exact ⟨front, split, (same front _).mp here⟩
  accepted here := reads.accepted ((same _ _).mpr here)

theorem Reads.pure (a : α) : (Pure.pure a : Reader α).Reads fun s b => s = [] ∧ b = a where
  taken run := by cases run; exact ⟨[], rfl, rfl, rfl⟩
  accepted here rest := by
    obtain ⟨rfl, rfl⟩ := here
    rfl

theorem Reads.byte : Reader.byte.Reads fun s b => s = [b] where
  taken {s _ _} run := by
    cases s with
    | nil => cases run
    | cons => cases run; exact ⟨_, rfl, rfl⟩
  accepted here rest := by
    subst here
    rfl

theorem Reads.bytes (n : Nat) : (Reader.bytes n).Reads fun s t => s = t ∧ t.length = n where
  taken {s _ _} run := by
    simp only [Reader.bytes] at run
    split at run
    · rename_i full
      cases run
      exact ⟨s.take n, (List.take_append_drop n s).symm, rfl, full⟩
    · cases run
  accepted here rest := by
    obtain ⟨rfl, rfl⟩ := here
    simp [Reader.bytes]

theorem Reads.bind {f : α → Reader β} {second : α → Form β} (first : r.Reads form)
    (next : ∀ a, (f a).Reads (second a)) : (r >>= f).Reads (form.andThen second) where
  taken run := by
    obtain ⟨a, middle, one, two⟩ := bind_ok run
    obtain ⟨front, rfl, here⟩ := first.taken one
    obtain ⟨back, rfl, there⟩ := (next a).taken two
    exact ⟨front ++ back, (List.append_assoc ..).symm, front, a, back, rfl, here, there⟩
  accepted here rest := by
    obtain ⟨front, a, back, rfl, one, two⟩ := here
    have start := first.accepted one (back ++ rest)
    have finish := (next a).accepted two rest
    rw [List.append_assoc]
    simpa only [Bind.bind, StateT.bind, Except.bind, start] using finish

theorem Reads.map {g : α → β} (reads : r.Reads form) :
    (g <$> r).Reads fun s b => ∃ a, form s a ∧ b = g a := by
  have both : (g <$> r).Reads (form.andThen fun a s b => s = [] ∧ b = g a) :=
    reads.bind fun a => .pure (g a)
  apply both.congr
  intro s b
  refine ⟨fun parts => ?_, fun parts => ?_⟩
  · rcases parts with ⟨front, a, back, rfl, here, rfl, rfl⟩
    exact ⟨a, by rwa [List.append_nil], rfl⟩
  · rcases parts with ⟨a, here, rfl⟩
    exact ⟨s, a, [], (List.append_nil s).symm, here, rfl, rfl⟩

theorem Reads.refine (reads : r.Reads form) (blame : Blame) (convert : α → Except Reason β) :
    (r.refine blame convert).Reads fun s b => ∃ a, form s a ∧ convert a = .ok b where
  taken run := by
    obtain ⟨a, read, converted⟩ := refine_ok run
    obtain ⟨front, split, here⟩ := reads.taken read
    exact ⟨front, split, a, here, converted⟩
  accepted here rest := by
    obtain ⟨a, inForm, converted⟩ := here
    simp only [Reader.refine, reads.accepted inForm rest, converted]

theorem Reads.require (reads : r.Reads form) (blame : Blame) (reason : Reason)
    (test : α → Bool) :
    (r.require blame reason test).Reads fun s a => form s a ∧ test a = true := by
  apply (reads.refine blame _).congr
  intro s b
  refine ⟨fun parts => ?_, fun parts => ?_⟩
  · rcases parts with ⟨a, here, passed⟩
    split at passed
    · rename_i holds
      cases passed
      exact ⟨here, holds⟩
    · cases passed
  · rcases parts with ⟨here, holds⟩
    exact ⟨b, here, by rw [if_pos holds]⟩

theorem Reads.times (each : r.Reads form) (n : Nat) :
    (Reader.times n r).Reads fun s all => all.length = n ∧ form.Row s all := by
  induction n with
  | zero =>
      apply (Reads.pure ([] : List α)).congr
      intro s all
      refine ⟨fun parts => ?_, fun parts => ?_⟩
      · rcases parts with ⟨rfl, rfl⟩
        exact ⟨rfl, .nil⟩
      · rcases parts with ⟨none, row⟩
        cases row with
        | nil => exact ⟨rfl, rfl⟩
        | cons => cases none
  | succ n ih =>
      rw [times_succ]
      apply (each.bind fun a => ih.bind fun others => Reads.pure (a :: others)).congr
      intro s all
      refine ⟨fun parts => ?_, fun parts => ?_⟩
      · rcases parts with ⟨front, a, tail, rfl, here, back, others, last, rfl, ⟨count, row⟩, rfl, rfl⟩
        rw [List.append_nil]
        exact ⟨by rw [List.length_cons, count], .cons here row⟩
      · rcases parts with ⟨count, row⟩
        cases row with
        | nil => cases count
        | cons here row =>
            exact ⟨_, _, _, rfl, here, _, _, [], (List.append_nil _).symm,
              ⟨Nat.succ.inj count, row⟩, rfl, rfl⟩

theorem times_length {n : Nat} {s rest : Bytes} {all : List α}
    (run : Reader.times n r s = .ok (all, rest)) : all.length = n := by
  induction n generalizing s all with
  | zero =>
      cases run
      rfl
  | succ n ih =>
      rw [times_succ] at run
      obtain ⟨a, middle, -, later⟩ := bind_ok run
      obtain ⟨others, left, tail, made⟩ := bind_ok later
      cases made
      rw [List.length_cons, ih tail]

/-- A reading after which nothing may follow. -/
theorem finish_after_ok_iff (reason : Reason) {s rest : Bytes} {a : α} :
    (do let a ← r; Reader.finish reason; return a : Reader α) s = .ok (a, rest) ↔
      r s = .ok (a, []) ∧ rest = [] := by
  cases first : r s with
  | error fault => simp [Bind.bind, StateT.bind, Except.bind, first]
  | ok pair =>
      obtain ⟨found, left⟩ := pair
      cases left with
      | nil =>
          simp [Bind.bind, StateT.bind, Except.bind, first, Reader.finish, Pure.pure, StateT.pure,
            Except.pure, eq_comm]
      | cons b left => simp [Bind.bind, StateT.bind, Except.bind, first, Reader.finish]

end Reader

namespace Leb128

/-! ## Integers -/

/-- Groups of seven bits, the low group first; every byte but the last has its top bit set. -/
inductive Groups : Form Nat
  | last {b : UInt8} : b.toNat < 128 → Groups [b] b.toNat
  | more {b : UInt8} {s : Bytes} {n : Nat} :
    128 ≤ b.toNat → Groups s n → Groups (b :: s) (b.toNat - 128 + 128 * n)

/-- A form of an unsigned integer of at most `width` bits: five bytes or fewer for 32 bits, ten or
fewer for 64. The high groups may be zero. -/
structure Spells (width : Nat) (s : Bytes) (n : Nat) : Prop where
  groups : Groups s n
  short : s.length ≤ (width + 6) / 7
  fits : n < 2 ^ width

theorem Groups.length_pos {s : Bytes} {n : Nat} (groups : Groups s n) : 0 < s.length := by
  cases groups <;> exact Nat.succ_pos _

theorem two_pow_of_seven_le {width : Nat} (wide : 7 ≤ width) :
    2 ^ width = 128 * 2 ^ (width - 7) := by
  rw [show (128 : Nat) = 2 ^ 7 from rfl, ← Nat.pow_add, Nat.add_sub_cancel' wide]

/-- One byte of the reader, where the width is not yet used up. -/
theorem Spells.more_iff {width : Nat} (wide : 7 ≤ width) {b : UInt8} (goesOn : 128 ≤ b.toNat)
    {s : Bytes} {n : Nat} :
    Spells width (b :: s) n ↔
      ∃ high, Spells (width - 7) s high ∧ n = b.toNat - 128 + 128 * high := by
  have power := two_pow_of_seven_le wide
  have small : b.toNat < 256 := b.toNat_lt
  refine ⟨fun parts => ?_, fun parts => ?_⟩
  · rcases parts with ⟨groups, short, fits⟩
    cases groups with
    | last ends => omega
    | @more _ _ high _ groups =>
        rw [List.length_cons] at short
        exact ⟨high, ⟨groups, by omega, by omega⟩, rfl⟩
  · rcases parts with ⟨high, ⟨groups, short, fits⟩, rfl⟩
    refine ⟨.more goesOn groups, ?_, by omega⟩
    rw [List.length_cons]
    omega

theorem Spells.last_iff {width : Nat} {b : UInt8} (ends : b.toNat < 128) (positive : 0 < width)
    {s : Bytes} {n : Nat} :
    Spells width (b :: s) n ↔ s = [] ∧ n = b.toNat ∧ b.toNat < 2 ^ width := by
  refine ⟨fun parts => ?_, fun parts => ?_⟩
  · rcases parts with ⟨groups, short, fits⟩
    cases groups with
    | last _ => exact ⟨rfl, rfl, fits⟩
    | more goesOn _ => omega
  · rcases parts with ⟨rfl, rfl, fits⟩
    refine ⟨.last ends, ?_, fits⟩
    rw [List.length_singleton]
    omega

/-- The widths in use are no multiples of seven, so the last byte always has bits to check. -/
theorem unsignedBits_taken {format : IntegerFormat} {width : Nat} (uneven : width % 7 ≠ 0)
    {s rest : Bytes} {n : Nat} (run : unsignedBits format width s = .ok (n, rest)) :
    ∃ front, s = front ++ rest ∧ Spells width front n := by
  fun_induction unsignedBits format width s generalizing n with
  | case1 => cases run
  | case2 width b s narrow fits =>
      cases run
      rw [Nat.one_shiftLeft] at fits
      have power : 2 ^ width ≤ 2 ^ 6 := Nat.pow_le_pow_right (by omega) (by omega)
      exact ⟨[b], rfl, (Spells.last_iff (by omega) (by omega)).mpr ⟨rfl, rfl, fits⟩⟩
  | case3 => cases run
  | case4 => cases run
  | case5 width b s wide ends =>
      cases run
      have power : 2 ^ 7 ≤ 2 ^ width := Nat.pow_le_pow_right (by omega) (by omega)
      exact ⟨[b], rfl, (Spells.last_iff ends (by omega)).mpr ⟨rfl, rfl, by omega⟩⟩
  | case6 => cases run
  | case7 width b s wide goesOn high left found ih =>
      cases run
      obtain ⟨front, rfl, here⟩ := ih (by omega) found
      exact ⟨b :: front, rfl, (Spells.more_iff (by omega) (by omega)).mpr ⟨high, here, rfl⟩⟩

theorem unsignedBits_accepted {format : IntegerFormat} {width : Nat} (uneven : width % 7 ≠ 0)
    {front : Bytes} {n : Nat} (here : Spells width front n) (rest : Bytes) :
    unsignedBits format width (front ++ rest) = .ok (n, rest) := by
  induction front generalizing width n with
  | nil => cases here.groups
  | cons b front ih =>
      rw [List.cons_append, unsignedBits]
      by_cases ends : b.toNat < 128
      · obtain ⟨rfl, rfl, fits⟩ := (Spells.last_iff ends (by omega)).mp here
        rw [← Nat.one_shiftLeft] at fits
        simp only [if_pos fits, if_pos ends, ite_self, List.nil_append]
      · have wide : 7 ≤ width := by
          have short := here.short
          rw [List.length_cons] at short
          cases here.groups with
          | last small => omega
          | more _ groups => have := groups.length_pos; omega
        obtain ⟨high, later, rfl⟩ := (Spells.more_iff wide (by omega)).mp here
        rw [if_neg (by omega), if_neg ends, ih (by omega) later]

theorem unsignedBits_reads (format : IntegerFormat) {width : Nat} (uneven : width % 7 ≠ 0) :
    (unsignedBits format width).Reads (Spells width) where
  taken run := unsignedBits_taken uneven run
  accepted here := unsignedBits_accepted uneven here

theorem u32_reads : u32.Reads fun s n => Spells 32 s n.toNat := by
  have plain : (unsigned .u32).Reads (Spells 32) := unsignedBits_reads .u32 (by decide)
  have mapped : u32.Reads fun s n => ∃ a, Spells 32 s a ∧ n = a.toUInt32 :=
    plain.map
  apply mapped.congr
  intro s n
  refine ⟨fun parts => ?_, fun here => ?_⟩
  · rcases parts with ⟨a, here, rfl⟩
    rwa [Nat.toUInt32_eq, UInt32.toNat_ofNat_of_lt' here.fits]
  · exact ⟨n.toNat, here, UInt32.ofNat_toNat.symm⟩

theorem Spells.toNat_toUInt32 {s : Bytes} {n : Nat} (here : Spells 32 s n) :
    n.toUInt32.toNat = n := by
  rw [Nat.toUInt32_eq, UInt32.toNat_ofNat_of_lt' here.fits]

theorem Spells.toUInt32 {s : Bytes} {n : Nat} (here : Spells 32 s n) :
    Spells 32 s n.toUInt32.toNat := by
  rwa [here.toNat_toUInt32]

theorem u32_accepted {s : Bytes} {n : Nat} (here : Spells 32 s n) (rest : Bytes) :
    u32 (s ++ rest) = .ok (n.toUInt32, rest) :=
  u32_reads.accepted here.toUInt32 rest

/-- The whole of an input that counts its values, where nothing may follow the last of them. -/
theorem counted_ok_iff {α : Type} {r : Reader α} (reason : Reason) {s rest : Bytes}
    {all : List α} :
    (do
      let count ← u32
      let all ← Reader.times count.toNat r
      Reader.finish reason
      return all : Reader (List α)) s = .ok (all, rest) ↔
      rest = [] ∧ ∃ count rows, Spells 32 count all.length ∧
        Reader.times all.length r rows = .ok (all, []) ∧ s = count ++ rows := by
  refine ⟨fun run => ?_, fun parts => ?_⟩
  · obtain ⟨n, rows, counted, later⟩ := Reader.bind_ok run
    obtain ⟨repeated, nothing⟩ := (Reader.finish_after_ok_iff reason).mp later
    obtain ⟨count, split, here⟩ := u32_reads.taken counted
    rw [← Reader.times_length repeated] at here repeated
    exact ⟨nothing, count, rows, here, repeated, split⟩
  · rcases parts with ⟨nothing, count, rows, here, repeated, split⟩
    have counted : u32 s = .ok (all.length.toUInt32, rows) := split ▸ u32_accepted here rows
    rw [← here.toNat_toUInt32] at repeated
    have later := (Reader.finish_after_ok_iff reason).mpr ⟨repeated, nothing⟩
    simpa only [Bind.bind, StateT.bind, Except.bind, counted] using later

theorem toNat_toUInt8 {n : Nat} (small : n < 256) : n.toUInt8.toNat = n := by
  rw [Nat.toUInt8_eq, UInt8.toNat_ofNat_of_lt' small]

/-- What is written is in the form. -/
theorem Spells.ofNat {width n : Nat} (positive : 0 < width) (fits : n < 2 ^ width) :
    Spells width (Leb128.ofNat n) n := by
  induction n using Nat.strongRecOn generalizing width with
  | ind n ih =>
      rw [Leb128.ofNat]
      split
      · rename_i small
        have byte : n.toUInt8.toNat = n := toNat_toUInt8 (by omega)
        exact (Spells.last_iff (by omega) positive).mpr ⟨rfl, byte.symm, by rwa [byte]⟩
      · rename_i large
        have byte : (n % 128 + 128).toUInt8.toNat = n % 128 + 128 := toNat_toUInt8 (by omega)
        have wide : 7 < width := by
          refine Nat.lt_of_not_le fun narrow => ?_
          have power : 2 ^ width ≤ 2 ^ 7 := Nat.pow_le_pow_right (by omega) narrow
          omega
        have power := two_pow_of_seven_le (Nat.le_of_lt wide)
        have high : Spells (width - 7) (Leb128.ofNat (n / 128)) (n / 128) :=
          ih (n / 128) (by omega) (by omega) (by omega)
        exact (Spells.more_iff (by omega) (by omega)).mpr ⟨n / 128, high, by omega⟩

/-- No form of an integer is shorter than the one that is written. -/
theorem Groups.length_ofNat_le {s : Bytes} {n : Nat} (groups : Groups s n) :
    (Leb128.ofNat n).length ≤ s.length := by
  induction groups with
  | last ends =>
      rw [Leb128.ofNat, if_pos ends]
      exact Nat.le_refl 1
  | @more b s n goesOn groups ih =>
      have small : b.toNat < 256 := b.toNat_lt
      have shift : (b.toNat - 128 + 128 * n) / 128 = n := by omega
      rw [Leb128.ofNat]
      split
      · rw [List.length_singleton, List.length_cons]
        omega
      · rw [List.length_cons, List.length_cons, shift]
        omega

theorem length_ofNat_mono {m n : Nat} (le : m ≤ n) :
    (Leb128.ofNat m).length ≤ (Leb128.ofNat n).length := by
  induction n using Nat.strongRecOn generalizing m with
  | ind n ih =>
      rw [Leb128.ofNat.eq_1 m, Leb128.ofNat.eq_1 n]
      by_cases small : n < 128
      · rw [if_pos small, if_pos (by omega)]
        exact Nat.le_refl 1
      · rw [if_neg small]
        split
        · rw [List.length_singleton, List.length_cons]
          omega
        · rw [List.length_cons, List.length_cons]
          have := ih (n / 128) (by omega) (Nat.div_le_div_right le)
          omega

end Leb128

namespace Name

/-! ## Names -/

/-- A form of a name: the length in bytes, at most `limit`, and the text in UTF-8. -/
def Spells : Form String := fun s name =>
  ∃ size, s = size ++ utf8 name ∧ Leb128.Spells 32 size (utf8 name).length ∧
    (utf8 name).length ≤ limit

theorem ofUtf8_ok_iff {text : Bytes} {name : String} :
    ofUtf8 text = .ok name ↔ text = utf8 name := by
  unfold ofUtf8 utf8 String.fromUTF8?
  refine ⟨fun run => ?_, fun parts => ?_⟩
  · split at run
    · rename_i found valid
      cases run
      split at valid
      · cases valid
        simp [String.fromUTF8]
      · cases valid
    · cases run
  · rcases parts with rfl
    rw [Array.toArray_toList, dif_pos name.isValidUTF8]
    simp [String.fromUTF8]

theorem readUtf8_reads :
    readUtf8.Reads fun s text =>
      ∃ size, s = size ++ text ∧ Leb128.Spells 32 size text.length ∧ text.length ≤ limit := by
  have parts := (Leb128.u32_reads.require .last .stringSize fun n => n.toNat ≤ limit).bind
    fun n => Reader.Reads.bytes n.toNat
  apply parts.congr
  intro s text
  refine ⟨fun parts => ?_, fun parts => ?_⟩
  · rcases parts with ⟨size, n, back, rfl, ⟨here, small⟩, rfl, count⟩
    rw [← count] at here
    exact ⟨size, rfl, here, count ▸ of_decide_eq_true small⟩
  · rcases parts with ⟨size, rfl, here, small⟩
    have width : text.length.toUInt32.toNat = text.length := here.toNat_toUInt32
    refine ⟨size, text.length.toUInt32, text, rfl, ⟨here.toUInt32, ?_⟩, rfl, width.symm⟩
    rw [width]
    exact decide_eq_true small

theorem read_reads : read.Reads Spells := by
  apply (readUtf8_reads.refine .last ofUtf8).congr
  intro s name
  refine ⟨fun parts => ?_, fun parts => ?_⟩
  · rcases parts with ⟨text, ⟨size, rfl, here, small⟩, valid⟩
    obtain rfl := ofUtf8_ok_iff.mp valid
    exact ⟨size, rfl, here, small⟩
  · rcases parts with ⟨size, rfl, here, small⟩
    exact ⟨utf8 name, ⟨size, rfl, here, small⟩, ofUtf8_ok_iff.mpr rfl⟩

end Name

end Memoryless

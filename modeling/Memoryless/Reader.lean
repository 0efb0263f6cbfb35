import Memoryless.Fault

/-!
# Readers

A reader takes bytes off the front of what is left to read. It does not know where in a file it stands,
so its answer depends on the bytes in front of it only. `Reader.Within` says that it leaves, or
blames, a place inside what it was given, and `Reader.Advances` that it takes at least one byte; the
loops over sections, bodies and instructions end because of the latter.
-/

namespace Memoryless

/-- Takes a value off the front of a byte string, or finds a fault there. -/
abbrev Reader := StateT Bytes (Except Fault)

/-- Where a value that is refused is blamed: on its first byte, on its last, or on what follows it. -/
inductive Blame
  | first | last | after
  deriving DecidableEq, Repr

/-- The place to blame for what was taken off `s` when `rest` was left. -/
def Blame.place (s rest : Bytes) : Blame → Bytes
  | first => s
  | last => s.drop (Bytes.offset s rest - 1)
  | after => rest

namespace Reader

variable {α β : Type}

/-- A fault at the place reached. -/
def fail (reason : Reason) : Reader α :=
  fun s => .error ⟨reason, s⟩

/-- One byte. -/
def byte : Reader UInt8
  | [] => .error ⟨.endOfInput, []⟩
  | b :: s => .ok (b, s)

/-- The next `n` bytes. If there are fewer, the place to blame is where they should begin. -/
def bytes (n : Nat) : Reader Bytes := fun s =>
  let front := s.take n
  if front.length = n then .ok (front, s.drop n) else .error ⟨.endOfInput, s⟩

/-- Nothing may be left to read. -/
def finish (reason : Reason) : Reader Unit
  | [] => .ok ((), [])
  | b :: s => .error ⟨reason, b :: s⟩

/-- Lets the next byte decide how to read on from it. -/
def peek (choose : UInt8 → Reader α) : Reader α
  | [] => .error ⟨.endOfInput, []⟩
  | b :: s => choose b (b :: s)

/-- Converts the value read, or refuses it. -/
def refine (r : Reader α) (blame : Blame) (convert : α → Except Reason β) : Reader β := fun s =>
  match r s with
  | .error fault => .error fault
  | .ok (a, rest) =>
    match convert a with
    | .ok b => .ok (b, rest)
    | .error reason => .error ⟨reason, blame.place s rest⟩

/-- Refuses values that do not pass a test. -/
def require (r : Reader α) (blame : Blame) (reason : Reason) (test : α → Bool) : Reader α :=
  r.refine blame fun a => if test a then .ok a else .error reason

/-- Reads a value and drops it. -/
def pass (r : Reader α) : Reader Unit :=
  (fun _ => ()) <$> r

/-- The values of `n` readings in a row, put after those in `taken`, which stand in reverse. -/
def timesAfter (r : Reader α) (taken : List α) : Nat → Reader (List α)
  | 0, s => .ok (taken.reverse, s)
  | n + 1, s =>
    match r s with
    | .error fault => .error fault
    | .ok (a, rest) => timesAfter r (a :: taken) n rest

/-- The values of `n` readings in a row. -/
def times (n : Nat) (r : Reader α) : Reader (List α) :=
  timesAfter r [] n

/-- Passes over `n` readings in a row. -/
def skip (r : Reader α) : Nat → Reader Unit
  | 0, s => .ok ((), s)
  | n + 1, s =>
    match r s with
    | .error fault => .error fault
    | .ok (_, rest) => skip r n rest

/-! ## Readings in a row -/

section Times

variable (r : Reader α)

theorem timesAfter_eq (taken : List α) (n : Nat) (s : Bytes) :
    timesAfter r taken n s =
      (timesAfter r [] n s).map fun result => (taken.reverse ++ result.1, result.2) := by
  induction n generalizing taken s with
  | zero => simp [timesAfter, Except.map]
  | succ n ih =>
      simp only [timesAfter]
      split
      · rfl
      · rename_i a rest _
        rw [ih (a :: taken), ih [a]]
        cases timesAfter r [] n rest <;> simp [Except.map]

/-- Readings in a row are one reading and then the others. -/
theorem times_succ (n : Nat) :
    times (n + 1) r = do
      let a ← r
      let others ← times n r
      return a :: others := by
  funext s
  cases first : r s with
  | error fault => simp [times, timesAfter, bind, StateT.bind, Except.bind, first]
  | ok pair =>
      obtain ⟨a, rest⟩ := pair
      simp only [times, timesAfter, bind, StateT.bind, Except.bind, first]
      rw [timesAfter_eq]
      cases timesAfter r [] n rest <;> rfl

end Times

/-! ## Readers stay inside what they are given -/

/-- What is left, and what is blamed, is a place inside what was given. -/
structure Within (r : Reader α) : Prop where
  rest_suffix : ∀ {s a rest}, r s = .ok (a, rest) → rest <:+ s
  fault_suffix : ∀ {s fault}, r s = .error fault → fault.rest <:+ s

/-- Every value read takes at least one byte. -/
def Advances (r : Reader α) : Prop :=
  ∀ {s a rest}, r s = .ok (a, rest) → rest.length < s.length

section Within

variable {r : Reader α} {f : α → Reader β}

theorem bind_ok {s : Bytes} {b : β} {rest : Bytes} (run : (r >>= f) s = .ok (b, rest)) :
    ∃ a middle, r s = .ok (a, middle) ∧ f a middle = .ok (b, rest) := by
  cases first : r s with
  | error fault => simp [bind, StateT.bind, Except.bind, first] at run
  | ok pair => exact ⟨pair.1, pair.2, rfl, by simpa [bind, StateT.bind, Except.bind, first] using run⟩

theorem bind_error {s : Bytes} {fault : Fault} (run : (r >>= f) s = .error fault) :
    r s = .error fault ∨
      ∃ a middle, r s = .ok (a, middle) ∧ f a middle = .error fault := by
  cases first : r s with
  | error found => exact .inl (by simpa [bind, StateT.bind, Except.bind, first] using run)
  | ok pair =>
      exact .inr ⟨pair.1, pair.2, rfl,
        by simpa [bind, StateT.bind, Except.bind, first] using run⟩

/-- A refined reading is a reading whose value was converted. -/
theorem refine_ok {blame : Blame} {convert : α → Except Reason β} {s : Bytes} {b : β} {rest : Bytes}
    (run : r.refine blame convert s = .ok (b, rest)) :
    ∃ a, r s = .ok (a, rest) ∧ convert a = .ok b := by
  unfold refine at run
  split at run
  · cases run
  · rename_i a left read
    split at run <;> cases run
    exact ⟨a, read, by assumption⟩

/-- A refined reading fails as the reading does, or because the value was refused. -/
theorem refine_error {blame : Blame} {convert : α → Except Reason β} {s : Bytes} {fault : Fault}
    (run : r.refine blame convert s = .error fault) :
    r s = .error fault ∨
      ∃ a rest reason, r s = .ok (a, rest) ∧ convert a = .error reason ∧
        fault = ⟨reason, blame.place s rest⟩ := by
  unfold refine at run
  split at run
  · rename_i found read
    cases run
    exact .inl read
  · rename_i a left read
    split at run
    · cases run
    · rename_i reason refused
      cases run
      exact .inr ⟨a, left, reason, read, refused, rfl⟩

theorem place_suffix {s rest : Bytes} (blame : Blame) (inside : rest <:+ s) :
    blame.place s rest <:+ s := by
  cases blame with
  | first => exact List.suffix_rfl
  | last => exact List.drop_suffix _ _
  | after => exact inside

theorem Within.pure (a : α) : Within (Pure.pure a : Reader α) where
  rest_suffix run := by cases run; exact List.suffix_rfl
  fault_suffix run := by cases run

theorem Within.get : Within (MonadState.get : Reader Bytes) where
  rest_suffix run := by cases run; exact List.suffix_rfl
  fault_suffix run := by cases run

theorem Within.fail (reason : Reason) : Within (Reader.fail reason : Reader α) where
  rest_suffix run := by cases run
  fault_suffix run := by cases run; exact List.suffix_rfl

theorem Within.bind (first : Within r) (second : ∀ a, Within (f a)) : Within (r >>= f) where
  rest_suffix run := by
    obtain ⟨a, middle, one, two⟩ := bind_ok run
    exact ((second a).rest_suffix two).trans (first.rest_suffix one)
  fault_suffix run := by
    obtain one | ⟨a, middle, one, two⟩ := bind_error run
    · exact first.fault_suffix one
    · exact ((second a).fault_suffix two).trans (first.rest_suffix one)

theorem Within.map {g : α → β} (first : Within r) : Within (g <$> r) :=
  first.bind fun a => .pure (g a)

theorem Within.pass (first : Within r) : Within r.pass :=
  first.map

theorem Within.byte : Within Reader.byte where
  rest_suffix {s _ _} run := by
    cases s with
    | nil => cases run
    | cons => cases run; exact List.suffix_cons _ _
  fault_suffix {s _} run := by
    cases s with
    | nil => cases run; exact List.suffix_rfl
    | cons => cases run

theorem Within.bytes (n : Nat) : Within (Reader.bytes n) where
  rest_suffix {s _ _} run := by
    simp only [Reader.bytes] at run
    split at run
    · cases run; exact List.drop_suffix n s
    · cases run
  fault_suffix {s _} run := by
    simp only [Reader.bytes] at run
    split at run
    · cases run
    · cases run; exact List.suffix_rfl

theorem Within.peek {choose : UInt8 → Reader α} (each : ∀ b, Within (choose b)) :
    Within (Reader.peek choose) where
  rest_suffix {s _ _} run := by
    cases s with
    | nil => cases run
    | cons b s => exact (each b).rest_suffix run
  fault_suffix {s _} run := by
    cases s with
    | nil => cases run; exact List.suffix_rfl
    | cons b s => exact (each b).fault_suffix run

theorem Within.refine (first : Within r) (blame : Blame) (convert : α → Except Reason β) :
    Within (r.refine blame convert) where
  rest_suffix run := by
    obtain ⟨a, read, _⟩ := refine_ok run
    exact first.rest_suffix read
  fault_suffix run := by
    obtain read | ⟨a, rest, reason, read, _, rfl⟩ := refine_error run
    · exact first.fault_suffix read
    · exact place_suffix blame (first.rest_suffix read)

theorem Within.require (first : Within r) (blame : Blame) (reason : Reason) (test : α → Bool) :
    Within (r.require blame reason test) :=
  first.refine blame _

theorem Within.skip (each : Within r) (n : Nat) : Within (Reader.skip r n) := by
  induction n with
  | zero =>
      exact ⟨fun run => by cases run; exact List.suffix_rfl, fun run => by cases run⟩
  | succ n ih =>
      constructor
      · intro s _ rest run
        cases first : r s with
        | error found => simp [Reader.skip, first] at run
        | ok pair =>
            simp only [Reader.skip, first] at run
            exact (ih.rest_suffix run).trans (each.rest_suffix first)
      · intro s fault run
        cases first : r s with
        | error found =>
            simp only [Reader.skip, first, Except.error.injEq] at run
            exact run ▸ each.fault_suffix first
        | ok pair =>
            simp only [Reader.skip, first] at run
            exact (ih.fault_suffix run).trans (each.rest_suffix first)

theorem Advances.byte : Advances Reader.byte := by
  intro s a rest run
  cases s <;> cases run
  exact Nat.lt_succ_self _

theorem Advances.bind (first : Advances r) (second : ∀ a, Within (f a)) :
    Advances (r >>= f) := by
  intro s b rest run
  obtain ⟨a, middle, one, two⟩ := bind_ok run
  exact Nat.lt_of_le_of_lt ((second a).rest_suffix two).length_le (first one)

theorem Advances.map {g : α → β} (first : Advances r) : Advances (g <$> r) :=
  Advances.bind first fun a => .pure (g a)

theorem Advances.pass (first : Advances r) : Advances r.pass :=
  Advances.map first

theorem Advances.fail (reason : Reason) : Advances (Reader.fail reason : Reader α) := by
  intro s a rest run
  cases run

theorem Advances.peek {choose : UInt8 → Reader α} (each : ∀ b, Advances (choose b)) :
    Advances (Reader.peek choose) := by
  intro s a rest run
  cases s with
  | nil => cases run
  | cons b s => exact each b run

theorem Advances.refine (first : Advances r) (blame : Blame) (convert : α → Except Reason β) :
    Advances (r.refine blame convert) := by
  intro s b rest run
  obtain ⟨a, read, _⟩ := refine_ok run
  exact first read

theorem Advances.require (first : Advances r) (blame : Blame) (reason : Reason) (test : α → Bool) :
    Advances (r.require blame reason test) :=
  Advances.refine first blame _

end Within

end Reader

end Memoryless

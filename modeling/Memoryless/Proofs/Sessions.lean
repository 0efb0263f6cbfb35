import Mathlib
import Memoryless.Proofs.RoundTrip
import Memoryless.Proofs.Restripping

/-!
# Working on one module

A session begins with the empty module. Each `SessionStep` reads another file, removes the memory, or
writes the module and reads it again; one that fails leaves the module as it was. What carries over from
step to step is that the module is read again from what is written of it (`Spells.advance`); the rest of
`Canonical` follows from that.

Once the memory was removed, only another file brings one back. Until then the session stands still
(`advance_memoryless`), which is why every further attempt to remove the memory fails.
-/

namespace Memoryless

/-- What can be done in a session. -/
inductive SessionStep
  /-- Reads another file. -/
  | load (file : Bytes)
  /-- Removes the memory, and tells which exports went with it. -/
  | edit
  /-- Removes the memory. -/
  | strip
  /-- Writes the module and reads what was written. -/
  | reload
  deriving DecidableEq, Repr

namespace Module

/-- The module after a step that succeeds. -/
def attempt? (m : Module) : SessionStep → Option Module
  | .load file => (decode file).toOption
  | .edit => (m.removeMemory.map Removal.remaining).toOption
  | .strip => m.withoutMemory.toOption
  | .reload => (decode m.encode).toOption

/-- The module after a step. -/
def advance (m : Module) (step : SessionStep) : Module :=
  (m.attempt? step).getD m

/-- The module after some steps. -/
def after (m : Module) (steps : List SessionStep) : Module :=
  steps.foldl advance m

/-- What holds of every module of a session. It is read again from what is written of it, its sections are in
order, none but custom sections repeats, and looking for a section finds the only one of its kind, in its
place. -/
structure Canonical (m : Module) : Prop where
  round_trip : decode m.encode = .ok m
  ordered : (ranks m.sections).Pairwise (· < ·)
  single : ∀ id ≠ .custom, (m.sections.countP fun x => x.id = id) ≤ 1
  found : ∀ (i : Nat) x, m.sections[i]? = some x → x.id ≠ .custom →
    m.section? x.id = some x ∧ m.position? x.id = some i

variable {m n : Module} {step : SessionStep} {steps : List SessionStep}

/-! ## Looking for a section -/

theorem isSome_rank? {id : SectionId} (known : id ≠ .custom) : id.rank?.isSome := by
  cases id with
  | custom => exact absurd rfl known
  | _ => rfl

/-- In an ordered module a section that is not custom is the only one of its kind, and is found in its
place. -/
theorem found_of_ordered (ordered : (ranks m.sections).Pairwise (· < ·)) {before after : List Section}
    {x : Section} (split : m.sections = before ++ x :: after) (known : x.id ≠ .custom) :
    m.section? x.id = some x ∧ m.position? x.id = some before.length ∧
      (m.sections.countP fun y => y.id = x.id) = 1 := by
  have others := id_ne_of_ordered ordered split (isSome_rank? known)
  have early : ∀ y ∈ before, ¬decide (y.id = x.id) = true := fun y member =>
    by simpa using others y (List.mem_append_left _ member)
  have late : ∀ y ∈ after, ¬decide (y.id = x.id) = true := fun y member =>
    by simpa using others y (List.mem_append_right _ member)
  have here : decide (x.id = x.id) = true := decide_eq_true rfl
  refine ⟨?_, ?_, ?_⟩
  · rw [section?, List.find?_eq_some_iff_append]
    exact ⟨here, before, after, split, fun y member => by simpa using early y member⟩
  · rw [position?, split, List.findIdx?_append, List.findIdx?_eq_none_iff.mpr (by simpa using early),
      List.findIdx?_cons, if_pos here]
    simp
  · rw [split, List.countP_append, List.countP_eq_zero.mpr early, List.countP_cons_of_pos (by simp),
      List.countP_eq_zero.mpr late]

theorem countP_le_one (ordered : (ranks m.sections).Pairwise (· < ·)) {id : SectionId}
    (known : id ≠ .custom) : (m.sections.countP fun x => x.id = id) ≤ 1 := by
  by_cases present : ∃ x ∈ m.sections, x.id = id
  · obtain ⟨x, member, rfl⟩ := present
    obtain ⟨before, after, split⟩ := List.append_of_mem member
    exact Nat.le_of_eq (found_of_ordered ordered split known).2.2
  · have none : (m.sections.countP fun x => x.id = id) = 0 :=
      List.countP_eq_zero.mpr fun x member same => present ⟨x, member, of_decide_eq_true same⟩
    rw [none]
    exact Nat.zero_le 1

theorem Spells.canonical (spelled : Spells m.encode m) : m.Canonical where
  round_trip := spelled.decode
  ordered := spelled.ordered
  single _ known := countP_le_one spelled.ordered known
  found i x at_i known := by
    obtain ⟨inside, rfl⟩ := List.getElem?_eq_some_iff.mp at_i
    have split : m.sections = m.sections.take i ++ m.sections[i] :: m.sections.drop (i + 1) := by
      rw [List.getElem_cons_drop, List.take_append_drop]
    obtain ⟨first, place, -⟩ := found_of_ordered spelled.ordered split known
    rw [List.length_take_of_le (Nat.le_of_lt inside)] at place
    exact ⟨first, place⟩

/-! ## Steps -/

theorem toOption_eq_some_iff {ε α : Type} {result : Except ε α} {a : α} :
    result.toOption = some a ↔ result = .ok a := by
  cases result with
  | error fault => simp [Except.toOption]
  | ok b => simp [Except.toOption]

/-- A step that succeeds reads a file, or removes the memory. -/
theorem attempt?_eq_some (tried : m.attempt? step = some n) :
    (∃ file, decode file = .ok n) ∨ ∃ removal, m.removeMemory = .ok removal ∧ removal.remaining = n := by
  cases step with
  | load file => exact .inl ⟨file, toOption_eq_some_iff.mp tried⟩
  | edit => exact .inr (map_ok_iff.mp (toOption_eq_some_iff.mp tried))
  | strip => exact .inr (map_ok_iff.mp (toOption_eq_some_iff.mp tried))
  | reload => exact .inl ⟨m.encode, toOption_eq_some_iff.mp tried⟩

theorem Spells.attempt? (spelled : Spells m.encode m) (tried : m.attempt? step = some n) :
    Spells n.encode n := by
  rcases attempt?_eq_some tried with ⟨file, read⟩ | ⟨removal, run, rfl⟩
  · exact (Spells.of_decode read).rewritten
  · obtain ⟨entries, removes, -, -⟩ := removeMemory_removes spelled.ordered run
    exact spelled.removed removes

theorem Spells.advance (spelled : Spells m.encode m) : Spells (m.advance step).encode (m.advance step) := by
  unfold Module.advance
  cases tried : m.attempt? step with
  | none => exact spelled
  | some n => exact spelled.attempt? tried

/-! ## Sessions -/

theorem Spells.after (spelled : Spells m.encode m) (steps : List SessionStep) :
    Spells (m.after steps).encode (m.after steps) := by
  induction steps generalizing m with
  | nil => exact spelled
  | cons step steps ih => exact ih spelled.advance

theorem spells_empty : Spells empty.encode empty :=
  .encode .nil (List.forall_mem_nil _) (List.forall_mem_nil _)

/-- Without a memory, a step that reads no other file leaves the module as it is. -/
theorem advance_memoryless (spelled : Spells m.encode m) (absent : ∀ x ∈ m.sections, x.id ≠ .memories)
    (noFile : ∀ file, step = .load file → ∃ error, decode file = .error error) : m.advance step = m := by
  have refused := removeMemory_of_absent absent
  unfold advance
  cases step with
  | load file =>
      obtain ⟨error, failed⟩ := noFile file rfl
      rw [Module.attempt?, failed]
      rfl
  | edit =>
      rw [Module.attempt?, refused]
      rfl
  | strip =>
      rw [Module.attempt?, withoutMemory, refused]
      rfl
  | reload =>
      rw [Module.attempt?, spelled.decode]
      rfl

theorem after_memoryless (spelled : Spells m.encode m) (absent : ∀ x ∈ m.sections, x.id ≠ .memories)
    (noFile : ∀ file, .load file ∈ steps → ∃ error, decode file = .error error) : m.after steps = m := by
  induction steps with
  | nil => rfl
  | cons step steps ih =>
      have still : m.advance step = m := advance_memoryless spelled absent fun file same =>
        noFile file (same ▸ List.mem_cons_self)
      rw [Module.after, List.foldl_cons, still]
      exact ih fun file later => noFile file (List.mem_cons_of_mem step later)

/-- After a removal that succeeds there is no memory. -/
theorem attempt?_removal (ordered : (ranks m.sections).Pairwise (· < ·))
    (removal : step = .edit ∨ step = .strip) (tried : m.attempt? step = some n) :
    ∀ x ∈ n.sections, x.id ≠ .memories := by
  have removed : ∃ removal, m.removeMemory = .ok removal ∧ removal.remaining = n := by
    rcases removal with rfl | rfl <;> exact map_ok_iff.mp (toOption_eq_some_iff.mp tried)
  obtain ⟨removal, run, rfl⟩ := removed
  obtain ⟨entries, removes, -, -⟩ := removeMemory_removes ordered run
  exact removes.id_ne

/-- Every module of a session is canonical. Once the memory was removed, it cannot be removed again before a
file is read. -/
theorem canonical_after (steps : List SessionStep) :
    (empty.after steps).Canonical ∧
      ∀ step n, step = .edit ∨ step = .strip → (empty.after steps).attempt? step = some n →
        ∀ later, (∀ file, .load file ∈ later → ∃ error, decode file = .error error) →
          (n.after later).removeMemory = .error .noMemory ∧
            (n.after later).withoutMemory = .error .noMemory := by
  have spelled := spells_empty.after steps
  refine ⟨spelled.canonical, fun step n removal tried later noFile => ?_⟩
  have absent := attempt?_removal spelled.ordered removal tried
  have refused := removeMemory_of_absent absent
  rw [after_memoryless (spelled.attempt? tried) absent noFile, withoutMemory, refused]
  exact ⟨rfl, rfl⟩

/-- A file is read and edited; then the module is written and read, another file cannot be read, and the
memory is asked to be removed twice. -/
theorem canonical_after_edit :
    (empty.after [.load (header ++ [5, 3, 1, 0, 1, 0, 2, 1, 0x61])]).attempt? .edit =
      some ⟨[⟨.custom, [1, 0x61]⟩]⟩ ∧
      (∀ file, .load file ∈ [SessionStep.reload, .load [0], .strip] → ∃ error, decode file = .error error) ∧
      (after ⟨[⟨.custom, [1, 0x61]⟩]⟩ [.reload, .load [0], .strip]).removeMemory = .error .noMemory := by
  have edited : (empty.after [.load (header ++ [5, 3, 1, 0, 1, 0, 2, 1, 0x61])]).attempt? .edit =
      some ⟨[⟨.custom, [1, 0x61]⟩]⟩ := by cbv
  have noFile : ∀ file, .load file ∈ [SessionStep.reload, .load [0], .strip] →
      ∃ error, decode file = .error error := by
    intro file member
    simp only [List.mem_cons, reduceCtorEq, SessionStep.load.injEq, List.not_mem_nil, or_false,
      false_or] at member
    rw [member]
    exact ⟨.malformedHeader, by cbv⟩
  exact ⟨edited, noFile, ((canonical_after _).2 _ _ (.inl rfl) edited _ noFile).1⟩

end Module

end Memoryless

import Memoryless.Proofs.MemoryRemoval

/-!
# What the removal of a memory comes to

A module that was put together by hand may repeat its sections and have them in any order. Of each kind the
first section is meant then: `Module.First` says which one that is, and what stands around it.

`Removal.Refused` lists why a memory is not removed. Each reason comes with what was looked at before it, so
that no two of them apply. `Removal.Done` says what is left if nothing stands against it: the first memory
section goes, the first export section is pruned, and every other section is as it was, a second memory
section as well. `Module.removeMemory_exact` is that there are no other outcomes.
-/

namespace Memoryless

namespace Module

/-! ## The first section of a kind -/

variable {id : SectionId} {sections before after : List Section} {x : Section}

/-- `x` is the first of the sections that is of this kind, with those around it. -/
structure First (id : SectionId) (sections before : List Section) (x : Section)
    (after : List Section) : Prop where
  split : sections = before ++ x :: after
  kind : x.id = id
  early : ∀ y ∈ before, y.id ≠ id

/-- Some section of the module is of this kind. -/
def Has (m : Module) (id : SectionId) : Prop :=
  ∃ x ∈ m.sections, x.id = id

theorem find?_eq_some_iff_first :
    (sections.find? fun y => y.id = id) = some x ↔ ∃ before after, First id sections before x after := by
  rw [List.find?_eq_some_iff_append]
  constructor
  · rintro ⟨kind, before, after, split, early⟩
    exact ⟨before, after, split, of_decide_eq_true kind, fun y member => by simpa using early y member⟩
  · rintro ⟨before, after, split, kind, early⟩
    exact ⟨decide_eq_true kind, before, after, split, fun y member => by simpa using early y member⟩

theorem First.section?_eq {m : Module} (first : First id m.sections before x after) :
    m.section? id = some x :=
  find?_eq_some_iff_first.mpr ⟨before, after, first⟩

theorem First.has {m : Module} (first : First id m.sections before x after) : m.Has id :=
  ⟨x, first.split ▸ List.mem_append_right _ List.mem_cons_self, first.kind⟩

theorem Has.exists_first {m : Module} (has : m.Has id) :
    ∃ before x after, First id m.sections before x after := by
  cases found : m.sections.find? fun y => y.id = id with
  | none =>
      rcases has with ⟨x, member, kind⟩
      exact absurd (decide_eq_true kind) (List.find?_eq_none.mp found x member)
  | some x =>
      obtain ⟨before, after, first⟩ := find?_eq_some_iff_first.mp found
      exact ⟨before, x, after, first⟩

/-- In an ordered module a section that has a rank is the first of its kind. -/
theorem First.of_ordered (ordered : (ranks sections).Pairwise (· < ·))
    (split : sections = before ++ x :: after) (ranked : x.id.rank?.isSome) :
    First x.id sections before x after where
  split := split
  kind := rfl
  early y member := id_ne_of_ordered ordered split ranked y (List.mem_append_left _ member)

theorem First.eraseP_eq (first : First id sections before x after) :
    (sections.eraseP fun y => y.id = id) = before ++ after := by
  have early : ∀ y ∈ before, ¬decide (y.id = id) = true := by simpa using first.early
  rw [first.split, List.eraseP_append_right _ early,
    List.eraseP_cons_of_pos (by simpa using first.kind)]

theorem First.span_eq (first : First id sections before x after) :
    (sections.span fun y => y.id ≠ id) = (before, x :: after) := by
  have early : ∀ y ∈ before, decide (y.id ≠ id) = true := by simpa using first.early
  rw [List.span_eq_takeWhile_dropWhile, first.split, List.takeWhile_append_of_pos early,
    List.dropWhile_append_of_pos early, List.takeWhile_cons_of_neg (by simpa using first.kind),
    List.dropWhile_cons_of_neg (by simpa using first.kind), List.append_nil]

/-- A section of another kind, taken out, changes nothing for this one. -/
theorem First.find?_around {other : SectionId} (first : First id sections before x after)
    (apart : id ≠ other) :
    ((before ++ after).find? fun y => y.id = other) = sections.find? fun y => y.id = other := by
  rw [first.split, List.find?_append, List.find?_append,
    List.find?_cons_of_neg (by simpa [first.kind] using apart)]

end Module

namespace Section

/-- The payload begins with this number. -/
def Counts (x : Section) (n : Nat) : Prop :=
  ∃ count more, Leb128.Spells 32 count n ∧ x.payload = count ++ more

theorem counts_iff {x : Section} {n : UInt32} :
    x.Counts n.toNat ↔ ∃ rest, Leb128.u32 x.payload = .ok (n, rest) := by
  simp only [Leb128.u32_reads.ok_iff]
  constructor
  · rintro ⟨count, more, here, split⟩
    exact ⟨more, count, split, here⟩
  · rintro ⟨more, count, split, here⟩
    exact ⟨count, more, here, split⟩

end Section

namespace Removal

/-! ## Outcomes -/

/-- The first data section, if there is one, has no segments. -/
def NoSegments (m : Module) : Prop :=
  ∀ before data after, Module.First .data m.sections before data after → data.Counts 0

/-- Why the memory is not removed: there is none; or the number of data segments cannot be read; or there
are some; or else the exports cannot be read. -/
inductive Refused (m : Module) : RemovalError → Prop
  | noMemory : ¬m.Has .memories → Refused m .noMemory
  | malformedData {before after : List Section} {data : Section} {fault : Fault} :
    m.Has .memories → Module.First .data m.sections before data after →
    Leb128.u32 data.payload = .error fault →
    Refused m (.malformedSection .data (Bytes.offset data.payload fault.rest) fault.reason)
  | dataSegments {before after : List Section} {data : Section} {n : UInt32} :
    m.Has .memories → Module.First .data m.sections before data after → data.Counts n.toNat → n ≠ 0 →
    Refused m (.dataSegments n)
  | malformedExports {before after : List Section} {exports : Section} {offset : Nat} {reason : Reason} :
    m.Has .memories → NoSegments m → Module.First .exports m.sections before exports after →
    parseExports exports = .error (.malformedSection .exports offset reason) →
    Refused m (.malformedSection .exports offset reason)

/-- What becomes of some sections, and which exports go, when the first export section is pruned. -/
inductive Prunes (sections : List Section) : List Section → List Export → Prop
  | absent : (∀ x ∈ sections, x.id ≠ .exports) → Prunes sections sections []
  | first {before after out : List Section} {x : Section} {entries : List Export} :
    Module.First .exports sections before x after → Export.parse x.payload = .ok entries →
    Pruned entries x out →
    Prunes sections (before ++ out ++ after) (entries.filter fun e => e.kind = .memory)

/-- The memory is removed: the first memory section is gone, and the exports are pruned. -/
inductive Done (m : Module) : Removal → Prop
  | done {before after remaining : List Section} {memory : Section} {removed : List Export} :
    NoSegments m → Module.First .memories m.sections before memory after →
    Prunes (before ++ after) remaining removed → Done m ⟨⟨remaining⟩, removed⟩

variable {m : Module} {sections remaining before after : List Section} {x : Section}
  {removed : List Export} {error : RemovalError}

/-! ## Data segments -/

theorem dataSegments_of_first (first : Module.First .data m.sections before x after) :
    dataSegments m = ((Leb128.u32 x.payload).mapError (malformed x)).map Prod.fst := by
  unfold dataSegments
  rw [first.section?_eq]
  dsimp only
  cases Leb128.u32 x.payload <;> rfl

theorem dataSegments_ok_iff_of_first (first : Module.First .data m.sections before x after) {n : UInt32} :
    dataSegments m = .ok n ↔ x.Counts n.toNat := by
  rw [dataSegments_of_first first, Section.counts_iff, map_ok_iff]
  simp only [mapError_ok_iff]
  constructor
  · rintro ⟨⟨_, rest⟩, read, rfl⟩
    exact ⟨rest, read⟩
  · rintro ⟨rest, read⟩
    exact ⟨(n, rest), read, rfl⟩

theorem dataSegments_of_not_has (without : ¬m.Has .data) : dataSegments m = .ok 0 := by
  have absent : m.section? .data = none :=
    List.find?_eq_none.mpr fun x member kind => without ⟨x, member, of_decide_eq_true kind⟩
  unfold dataSegments
  rw [absent]

theorem dataSegments_eq_zero_iff : dataSegments m = .ok 0 ↔ NoSegments m := by
  constructor
  · intro counted before x after first
    exact (dataSegments_ok_iff_of_first first).mp counted
  · intro none
    by_cases has : m.Has .data
    · obtain ⟨before, x, after, first⟩ := has.exists_first
      exact (dataSegments_ok_iff_of_first first).mpr (none before x after first)
    · exact dataSegments_of_not_has has

theorem dataSegments_ok_iff {n : UInt32} (some : n ≠ 0) :
    dataSegments m = .ok n ↔
      ∃ before x after, Module.First .data m.sections before x after ∧ x.Counts n.toNat := by
  constructor
  · intro counted
    by_cases has : m.Has .data
    · obtain ⟨before, x, after, first⟩ := has.exists_first
      exact ⟨before, x, after, first, (dataSegments_ok_iff_of_first first).mp counted⟩
    · rw [dataSegments_of_not_has has] at counted
      cases counted
      exact absurd rfl some
  · rintro ⟨before, x, after, first, counts⟩
    exact (dataSegments_ok_iff_of_first first).mpr counts

theorem dataSegments_error_iff :
    dataSegments m = .error error ↔
      ∃ before x after fault, Module.First .data m.sections before x after ∧
        Leb128.u32 x.payload = .error fault ∧
        error = .malformedSection .data (Bytes.offset x.payload fault.rest) fault.reason := by
  constructor
  · intro failed
    by_cases has : m.Has .data
    · obtain ⟨before, x, after, first⟩ := has.exists_first
      rw [dataSegments_of_first first, map_error_iff, mapError_error_iff] at failed
      obtain ⟨fault, read, rfl⟩ := failed
      refine ⟨before, x, after, fault, first, read, ?_⟩
      rw [malformed, first.kind]
    · rw [dataSegments_of_not_has has] at failed
      cases failed
  · rintro ⟨before, x, after, fault, first, read, rfl⟩
    rw [dataSegments_of_first first, map_error_iff, mapError_error_iff]
    refine ⟨fault, read, ?_⟩
    rw [malformed, first.kind]

/-! ## Exports -/

theorem prune_ok_iff {out : List Section} :
    prune x = .ok (out, removed) ↔
      ∃ entries, Export.parse x.payload = .ok entries ∧ Pruned entries x out ∧
        removed = entries.filter fun e => e.kind = .memory := by
  refine ⟨prune_ok, fun parts => ?_⟩
  rcases parts with ⟨entries, parsed, pruned, rfl⟩
  have made : ∃ result, prune x = .ok result := ⟨_, map_ok_iff.mpr ⟨_, mapError_ok_iff.mpr parsed, rfl⟩⟩
  rcases made with ⟨⟨other, gone⟩, made⟩
  obtain ⟨_, again, sameOut, rfl⟩ := prune_ok made
  rw [parsed] at again
  cases again
  rw [made, pruned.unique sameOut]

theorem pruneFirst_of_absent (absent : ∀ x ∈ sections, x.id ≠ .exports) :
    pruneFirst sections = .ok (sections, []) := by
  rcases Module.span_exports sections with ⟨-, parts⟩ | ⟨before, x, after, split, -, isExports, -⟩
  · unfold pruneFirst
    rw [parts]
  · refine absurd isExports (absent x ?_)
    rw [split]
    exact List.mem_append_right _ List.mem_cons_self

theorem pruneFirst_of_first (first : Module.First .exports sections before x after) :
    pruneFirst sections =
      (prune x).map fun result => (before ++ result.1 ++ after, result.2) := by
  unfold pruneFirst
  rw [first.span_eq]
  dsimp only
  cases prune x <;> rfl

theorem pruneFirst_ok_iff :
    pruneFirst sections = .ok (remaining, removed) ↔ Prunes sections remaining removed := by
  constructor
  · intro run
    rcases Module.pruneFirst_ok run with
      ⟨absent, rfl, rfl⟩ | ⟨before, x, after, out, split, early, isExports, made, rfl⟩
    · exact .absent absent
    · obtain ⟨entries, parsed, pruned, rfl⟩ := prune_ok made
      exact .first ⟨split, isExports, early⟩ parsed pruned
  · intro prunes
    cases prunes with
    | absent absent => exact pruneFirst_of_absent absent
    | first first parsed pruned =>
        rw [pruneFirst_of_first first]
        exact map_ok_iff.mpr ⟨_, prune_ok_iff.mpr ⟨_, parsed, pruned, rfl⟩, rfl⟩

theorem pruneFirst_error_iff :
    pruneFirst sections = .error error ↔
      ∃ x, (sections.find? fun y => y.id = .exports) = some x ∧ parseExports x = .error error := by
  simp only [Module.find?_eq_some_iff_first]
  constructor
  · intro run
    cases found : sections.find? fun y => y.id = .exports with
    | none =>
        have absent : ∀ x ∈ sections, x.id ≠ .exports := by
          simpa using List.find?_eq_none.mp found
        rw [pruneFirst_of_absent absent] at run
        cases run
    | some x =>
        obtain ⟨before, after, first⟩ := Module.find?_eq_some_iff_first.mp found
        rw [pruneFirst_of_first first, map_error_iff] at run
        exact ⟨x, ⟨before, after, first⟩, map_error_iff.mp run⟩
  · rintro ⟨x, ⟨before, after, first⟩, failed⟩
    rw [pruneFirst_of_first first, map_error_iff]
    exact map_error_iff.mpr failed

end Removal

namespace Module

open Removal

variable {m : Module} {before after : List Section} {memory : Section} {error : RemovalError}
  {removal : Removal}

/-! ## Runs -/

theorem removeMemory_of_not_has (without : ¬m.Has .memories) : m.removeMemory = .error .noMemory := by
  have absent : m.section? .memories = none :=
    List.find?_eq_none.mpr fun x member kind => without ⟨x, member, of_decide_eq_true kind⟩
  unfold removeMemory
  rw [absent]
  rfl

theorem removeMemory_of_first (first : First .memories m.sections before memory after) :
    m.removeMemory = dataSegments m >>= fun count =>
      if count = 0 then (pruneFirst (before ++ after)).map fun result => ⟨⟨result.1⟩, result.2⟩
      else .error (.dataSegments count) := by
  unfold removeMemory
  rw [first.section?_eq, first.eraseP_eq]
  dsimp only
  congr 1
  funext count
  by_cases zero : count = 0
  · rw [if_pos zero, if_neg (not_not.mpr zero)]
    cases pruneFirst (before ++ after) <;> rfl
  · rw [if_neg zero, if_pos zero]
    rfl

theorem removeMemory_ok_iff_of_first (first : First .memories m.sections before memory after) :
    m.removeMemory = .ok removal ↔
      dataSegments m = .ok 0 ∧
        pruneFirst (before ++ after) = .ok (removal.remaining.sections, removal.removedExports) := by
  rw [removeMemory_of_first first, bind_ok_iff]
  constructor
  · rintro ⟨count, counted, run⟩
    split at run
    · next zero =>
        subst zero
        obtain ⟨result, pruned, rfl⟩ := map_ok_iff.mp run
        exact ⟨counted, pruned⟩
    · cases run
  · rintro ⟨counted, pruned⟩
    exact ⟨0, counted, map_ok_iff.mpr ⟨_, pruned, rfl⟩⟩

theorem removeMemory_error_iff_of_first (first : First .memories m.sections before memory after) :
    m.removeMemory = .error error ↔
      dataSegments m = .error error ∨
        (∃ n, n ≠ 0 ∧ dataSegments m = .ok n ∧ error = .dataSegments n) ∨
        dataSegments m = .ok 0 ∧ pruneFirst (before ++ after) = .error error := by
  rw [removeMemory_of_first first, bind_error_iff]
  refine or_congr_right ⟨fun parts => ?_, fun parts => ?_⟩
  · rcases parts with ⟨count, counted, run⟩
    split at run
    · next zero =>
        subst zero
        exact .inr ⟨counted, map_error_iff.mp run⟩
    · next some =>
        cases run
        exact .inl ⟨count, some, counted, rfl⟩
  · rcases parts with ⟨n, some, counted, rfl⟩ | ⟨counted, failed⟩
    · exact ⟨n, counted, if_neg some⟩
    · exact ⟨0, counted, map_error_iff.mpr failed⟩

theorem removeMemory_error_iff : m.removeMemory = .error error ↔ Refused m error := by
  by_cases has : m.Has .memories
  · obtain ⟨before, memory, after, first⟩ := has.exists_first
    -- The exports are pruned after the memory section is gone, but they are the same as before.
    rw [removeMemory_error_iff_of_first first, dataSegments_error_iff, pruneFirst_error_iff,
      first.find?_around (by decide), dataSegments_eq_zero_iff]
    constructor
    · intro parts
      rcases parts with ⟨_, data, _, fault, here, read, rfl⟩ | ⟨n, some, counted, rfl⟩ |
        ⟨none, exports, found, failed⟩
      · exact .malformedData has here read
      · obtain ⟨_, data, _, here, counts⟩ := (dataSegments_ok_iff some).mp counted
        exact .dataSegments has here counts some
      · obtain ⟨_, _, here⟩ := find?_eq_some_iff_first.mp found
        obtain ⟨fault, read, rfl⟩ := mapError_error_iff.mp failed
        rw [malformed, here.kind]
        refine .malformedExports has none here ?_
        rw [failed, malformed, here.kind]
    · intro refused
      cases refused with
      | noMemory without => exact absurd has without
      | malformedData _ here read => exact .inl ⟨_, _, _, _, here, read, rfl⟩
      | dataSegments _ here counts some =>
          exact .inr (.inl ⟨_, some, (dataSegments_ok_iff some).mpr ⟨_, _, _, here, counts⟩, rfl⟩)
      | malformedExports _ none here failed =>
          exact .inr (.inr ⟨none, _, here.section?_eq, failed⟩)
  · rw [removeMemory_of_not_has has]
    constructor
    · intro failed
      cases failed
      exact .noMemory has
    · intro refused
      cases refused with
      | noMemory => rfl
      | malformedData found => exact absurd found has
      | dataSegments found => exact absurd found has
      | malformedExports found => exact absurd found has

theorem removeMemory_ok_iff : m.removeMemory = .ok removal ↔ Done m removal := by
  constructor
  · intro run
    by_cases has : m.Has .memories
    · obtain ⟨before, memory, after, first⟩ := has.exists_first
      obtain ⟨counted, pruned⟩ := (removeMemory_ok_iff_of_first first).mp run
      exact .done (dataSegments_eq_zero_iff.mp counted) first (pruneFirst_ok_iff.mp pruned)
    · rw [removeMemory_of_not_has has] at run
      cases run
  · intro done
    cases done with
    | done none first prunes =>
        exact (removeMemory_ok_iff_of_first first).mpr
          ⟨dataSegments_eq_zero_iff.mpr none, pruneFirst_ok_iff.mpr prunes⟩

/-- Of any module, with its sections in any order and repeated at will: the memory is refused for exactly the
listed reasons, and what is left of the module and which exports are gone is exactly what is listed. -/
theorem removeMemory_exact (m : Module) :
    (∀ error, m.removeMemory = .error error ↔ Refused m error) ∧
      ∀ removal, m.removeMemory = .ok removal ↔ Done m removal :=
  ⟨fun _ => removeMemory_error_iff, fun _ => removeMemory_ok_iff⟩

end Module

end Memoryless

import Memoryless.Proofs.Diagnosis

/-!
# Writing a module and reading it again

A module that was put together by hand may hold anything, and what is written of it need not be a binary
module. `Module.WellFormed` says what is missing at most: ranks that increase, and payloads that open. A
module with both is read again as it is. Any other is refused for its first section that `Offends`, and the
sections after that one, whatever they hold, make no difference.
-/

namespace Memoryless.Module

/-- The ranks of the sections increase, and every payload opens as its kind of section asks. -/
structure WellFormed (m : Module) : Prop where
  ordered : (ranks m.sections).Pairwise (· < ·)
  opened : ∀ x ∈ m.sections, x.Opens

/-- What is wrong with a section after well-formed others: its payload does not open, or else its rank is not
above theirs. -/
inductive Offends (before : List Section) (x : Section) : FrameFault → Prop
  | name : x.id = .custom → ¬x.Opens → Offends before x .malformedName
  | opening {reason : Reason} :
    x.id ≠ .custom → ¬x.Opens → Offends before x (.malformedPayload x.id reason)
  | outOfOrder :
    x.Opens → ¬(ranks (before ++ [x])).Pairwise (· < ·) → Offends before x (.outOfOrder x.id)

variable {m : Module} {before after : List Section} {x : Section}

theorem Spells.wellFormed {file : Bytes} (spelled : Spells file m) : m.WellFormed :=
  ⟨spelled.ordered, spelled.opened⟩

/-! ## The first section that offends -/

theorem exists_offending {sections : List Section} (broken : ¬WellFormed ⟨sections⟩) :
    ∃ before x after, sections = before ++ x :: after ∧ WellFormed ⟨before⟩ ∧
      ¬WellFormed ⟨before ++ [x]⟩ := by
  induction sections using List.reverseRecOn with
  | nil => exact absurd ⟨List.Pairwise.nil, List.forall_mem_nil _⟩ broken
  | append_singleton sections x ih =>
      by_cases front : WellFormed ⟨sections⟩
      · exact ⟨sections, x, [], rfl, front, broken⟩
      · obtain ⟨before, y, after, rfl, good, bad⟩ := ih front
        exact ⟨before, y, after ++ [x], by rw [List.append_assoc, List.cons_append], good, bad⟩

theorem pairwise_ranks_concat_iff {last : Nat} :
    (last :: ranks (before ++ [x])).Pairwise (· < ·) ↔
      (last :: ranks before).Pairwise (· < ·) ∧
        ∃ rank, nextRank? (reached last before) x.id = some rank := by
  induction before generalizing last with
  | nil =>
      rw [List.nil_append, pairwise_ranks_cons_iff]
      simp [ranks, reached]
  | cons y before ih =>
      rw [List.cons_append, pairwise_ranks_cons_iff, pairwise_ranks_cons_iff]
      refine ⟨fun parts => ?_, fun parts => ?_⟩
      · rcases parts with ⟨rank, next, ordered⟩
        obtain ⟨front, final⟩ := ih.mp ordered
        exact ⟨⟨rank, next, front⟩, (reached_cons next).symm ▸ final⟩
      · rcases parts with ⟨⟨rank, next, front⟩, final⟩
        rw [reached_cons next] at final
        exact ⟨rank, next, ih.mpr ⟨front, final⟩⟩

/-- A section whose rank is not above those before has a rank, and one that was passed already. -/
theorem passed_of_not_ordered (ordered : (ranks before).Pairwise (· < ·))
    (unordered : ¬(ranks (before ++ [x])).Pairwise (· < ·)) :
    ∃ late, x.id.rank? = some late ∧ late ≤ reached 0 before := by
  rw [← nextRank?_eq_none_iff, Option.eq_none_iff_forall_ne_some]
  intro rank next
  rw [← pairwise_zero_ranks_iff] at ordered unordered
  exact unordered (pairwise_ranks_concat_iff.mpr ⟨ordered, rank, next⟩)

/-- The first section that offends is what is wrong with the bytes that begin with it. -/
theorem misread_of_offending (short : x.payload.length < 2 ^ 32) (good : WellFormed ⟨before⟩)
    (bad : ¬WellFormed ⟨before ++ [x]⟩) (rest : Bytes) :
    ∃ fault, Offends before x fault ∧ Misread (reached 0 before) (x.write ++ rest) fault := by
  have here : Leb128.Spells 32 (Leb128.ofNat x.payload.length) x.payload.length :=
    .ofNat (by decide) short
  by_cases opened : x.Opens
  · have unordered : ¬(ranks (before ++ [x])).Pairwise (· < ·) := fun ordered =>
      bad ⟨ordered, List.forall_mem_append.mpr ⟨good.opened, List.forall_mem_singleton.mpr opened⟩⟩
    obtain ⟨late, ranked, passed⟩ := passed_of_not_ordered good.ordered unordered
    exact ⟨_, .outOfOrder opened unordered, .outOfOrder ⟨_, here, rfl⟩ opened ranked passed⟩
  · have split : x.write ++ rest =
        x.id.byte :: (Leb128.ofNat x.payload.length ++ (x.payload ++ rest)) := by
      rw [Section.write, List.cons_append, List.append_assoc]
    rw [split]
    by_cases isCustom : x.id = .custom
    · exact ⟨_, .name isCustom opened, .frame (.name here isCustom opened)⟩
    · obtain ⟨reason, refused⟩ := (Section.not_opens_iff rest).mp opened
      have wrong := (Section.checkOpening_error_iff isCustom).mp refused
      exact ⟨_, .opening isCustom opened, .frame (.opening here isCustom opened wrong)⟩

/-! ## Round trips -/

theorem WellFormed.round_trip (formed : m.WellFormed)
    (short : ∀ x ∈ m.sections, x.payload.length < 2 ^ 32) : decode m.encode = .ok m :=
  (Spells.encode formed.ordered formed.opened short).decode

theorem decode_encode_of_not_wellFormed (broken : ¬m.WellFormed)
    (short : ∀ x ∈ m.sections, x.payload.length < 2 ^ 32) :
    ∃ before x after fault, m.sections = before ++ x :: after ∧ WellFormed ⟨before⟩ ∧
      Offends before x fault ∧
      decode m.encode = .error (.misframed (encode ⟨before⟩).length fault) := by
  obtain ⟨before, x, after, split, good, bad⟩ := exists_offending broken
  rw [split] at short
  obtain ⟨early, late⟩ := List.forall_mem_append.mp short
  obtain ⟨here, -⟩ := List.forall_mem_cons.mp late
  obtain ⟨fault, offends, wrong⟩ :=
    misread_of_offending here good bad (after.flatMap Section.write)
  have whole : m.encode = encode ⟨before⟩ ++ (x.write ++ after.flatMap Section.write) := by
    simp only [encode, split, List.flatMap_append, List.flatMap_cons, List.append_assoc]
  have front : Spells (encode ⟨before⟩) ⟨before⟩ := Spells.encode good.ordered good.opened early
  exact ⟨before, x, after, fault, split, good, offends,
    decode_misframed_iff.mpr ⟨_, _, _, whole, rfl, front, wrong⟩⟩

/-- A module is read again from what is written of it exactly if it is well formed, and then as the same
module; if it is not, the first section that offends is reported, at its offset. A module that was read
from a file is well formed. -/
theorem decode_encode (m : Module) :
    ((∀ x ∈ m.sections, x.payload.length < 2 ^ 32) →
      ((∃ n, decode m.encode = .ok n) ↔ m.WellFormed) ∧
      (∀ n, decode m.encode = .ok n → n = m) ∧
      ∀ error, decode m.encode = .error error →
        ∃ before x after fault, m.sections = before ++ x :: after ∧ WellFormed ⟨before⟩ ∧
          Offends before x fault ∧ error = .misframed (encode ⟨before⟩).length fault) ∧
    ∀ file, decode file = .ok m → decode m.encode = .ok m := by
  refine ⟨fun short => ?_, fun file decoded => ?_⟩
  · by_cases formed : m.WellFormed
    · rw [formed.round_trip short]
      refine ⟨iff_of_true ⟨m, rfl⟩ formed, fun n same => (Except.ok.inj same).symm, nofun⟩
    · obtain ⟨before, x, after, fault, split, good, offends, refused⟩ :=
        decode_encode_of_not_wellFormed formed short
      rw [refused]
      refine ⟨iff_of_false nofun formed, nofun, fun error same => ?_⟩
      exact ⟨before, x, after, fault, split, good, offends, (Except.error.inj same).symm⟩
  · have spelled := Spells.of_decode decoded
    exact spelled.wellFormed.round_trip spelled.payload_lt

/-- A count of function bodies that goes on behind the code section: the section after it is not split any
other way. -/
theorem decode_encode_count_past_end :
    (∀ x ∈ [Section.mk .code [0x80], ⟨.data, [0]⟩], x.payload.length < 2 ^ 32) ∧
      decode (encode ⟨[⟨.code, [0x80]⟩, ⟨.data, [0]⟩]⟩) =
        .error (.misframed 8 (.malformedPayload .code .endOfInput)) ∧
      ∃ before x after fault,
        [Section.mk .code [0x80], ⟨.data, [0]⟩] = before ++ x :: after ∧ WellFormed ⟨before⟩ ∧
        Offends before x fault ∧
        DecodeError.misframed 8 (.malformedPayload .code .endOfInput) =
          .misframed (encode ⟨before⟩).length fault := by
  have short : ∀ x ∈ [Section.mk .code [0x80], ⟨.data, [0]⟩], x.payload.length < 2 ^ 32 := by decide
  have refused : decode (encode ⟨[⟨.code, [0x80]⟩, ⟨.data, [0]⟩]⟩) =
      .error (.misframed 8 (.malformedPayload .code .endOfInput)) := by cbv
  obtain ⟨-, -, first⟩ := (decode_encode ⟨[⟨.code, [0x80]⟩, ⟨.data, [0]⟩]⟩).1 short
  exact ⟨short, refused, first _ refused⟩

end Memoryless.Module

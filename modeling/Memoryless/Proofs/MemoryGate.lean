import Memoryless.Code.MemoryUse
import Memoryless.Proofs.CodeForm
import Memoryless.Proofs.InstructionRun

/-!
# The memory gate

A body is `Clean` if the instructions after its local variables take up the rest of it, need no memory,
and close the function with the last of them and not before. It `Uses` a memory at an offset if such
instructions, up to there, leave the function open and the next one needs a memory.

`Module.scan_exact` is what the inspection of all bodies amounts to: the section is cut into bodies
before any of them is looked into, and then the first body that is not clean decides.
-/

namespace Memoryless

namespace FunctionBody

open Instruction Opcode

/-- These instructions are read from the end of the local variables up to a place in the body. -/
def Reaches (body : FunctionBody) (ops : List Opcode) (place : Bytes) : Prop :=
  ∃ start, skipLocals body.contents = .ok ((), start) ∧ Run start ops place

/-- The instructions take up the body, none of them needs a memory, and it is the last one that closes
the function. -/
def Clean (body : FunctionBody) : Prop :=
  ∃ ops last, body.Reaches (ops ++ [last]) [] ∧
    (∀ op ∈ ops ++ [last], MemoryOpcode.ofOpcode? op = none) ∧
    StaysOpen 0 ops ∧ level (ops ++ [last]) = -1

/-- The first instruction to need a memory is this one, at this offset of the section. -/
def Uses (body : FunctionBody) (payload : Bytes) (opcode : MemoryOpcode) (offset : Nat) : Prop :=
  ∃ ops op place rest front, body.Reaches ops place ∧
    (∀ earlier ∈ ops, MemoryOpcode.ofOpcode? earlier = none) ∧ StaysOpen 0 ops ∧
    next place = .ok (op, rest) ∧ MemoryOpcode.ofOpcode? op = some opcode ∧
    payload = front ++ (place ++ body.rest) ∧ front.length = offset

/-- The verdict on one body. -/
def verdict (body : FunctionBody) (payload : Bytes) : Verdict :=
  .ofFinding payload body.finding?

/-! ## One body -/

variable {body : FunctionBody}

theorem Reaches.suffix {ops : List Opcode} {place : Bytes} (reaches : body.Reaches ops place) :
    place <:+ body.contents := by
  rcases reaches with ⟨start, localsRead, run⟩
  exact run.suffix.trans (skipLocals_within.rest_suffix localsRead)

/-- A place that is reached in a body that stands somewhere in the section stands there, too. -/
theorem Reaches.stands {ops : List Opcode} {place payload before : Bytes} (reaches : body.Reaches ops place)
    (split : payload = before ++ (body.contents ++ body.rest)) :
    ∃ front, payload = front ++ (place ++ body.rest) := by
  obtain ⟨skipped, contents⟩ := reaches.suffix
  exact ⟨before ++ skipped, by rw [split, ← contents, List.append_assoc, List.append_assoc]⟩

/-- What is found in a body whose local variables can be read. -/
theorem inspect_eq_iff (short : body.contents.length < 2 ^ 32) {found : Option Finding}
    (notFault : ∀ fault, found ≠ some (.unreadable (.malformed fault))) :
    inspect body.contents = found ↔
      ∃ ops place, body.Reaches ops place ∧ (∀ op ∈ ops, MemoryOpcode.ofOpcode? op = none) ∧
        StaysOpen 0 ops ∧ Stops (level ops) place found := by
  have walked : ∀ start, skipLocals body.contents = .ok ((), start) →
      (walk 0 start = found ↔ ∃ ops place, Walked 0 start ops place found) := by
    intro start localsRead
    have kept := (skipLocals_within.rest_suffix localsRead).length_le
    exact walk_eq_iff 0 (by rw [UInt32.toNat_zero]; omega)
  refine ⟨fun result => ?_, fun parts => ?_⟩
  · unfold inspect at result
    split at result
    · exact absurd result.symm (notFault _)
    · rename_i start localsRead
      obtain ⟨ops, place, run, plain, stays, stops⟩ := (walked start localsRead).mp result
      rw [Int.zero_add] at stops
      exact ⟨ops, place, ⟨start, localsRead, run⟩, plain, stays, stops⟩
  · rcases parts with ⟨ops, place, ⟨start, localsRead, run⟩, plain, stays, stops⟩
    unfold inspect
    rw [localsRead]
    rw [← Int.zero_add (level ops)] at stops
    exact (walked start localsRead).mpr ⟨ops, place, run, plain, stays, stops⟩

theorem Stops.of_none {depth : Int} {place : Bytes} (stops : Stops depth place none) :
    ∃ op, next place = .ok (op, []) ∧ MemoryOpcode.ofOpcode? op = none ∧ op.nesting = .closes ∧
      depth = 0 := by
  generalize result : (none : Option Finding) = found at stops
  cases stops with
  | missing => cases result
  | unreadable => cases result
  | access => cases result
  | @closed place rest op read plain closes outermost =>
      cases rest with
      | nil => exact ⟨op, read, plain, closes, outermost⟩
      | cons => cases result

theorem Stops.of_access {depth : Int} {place : Bytes} {opcode : MemoryOpcode} {found : Bytes}
    (stops : Stops depth place (some (.access opcode found))) :
    found = place ∧ ∃ op rest, next place = .ok (op, rest) ∧ MemoryOpcode.ofOpcode? op = some opcode := by
  generalize result : some (Finding.access opcode found) = finding at stops
  cases stops with
  | missing => cases result
  | unreadable => cases result
  | @access place rest op _ read memory =>
      cases result
      exact ⟨rfl, op, rest, read, memory⟩
  | @closed place rest op =>
      cases rest with
      | nil => cases result
      | cons => cases result

theorem finding?_eq_none_iff (short : body.contents.length < 2 ^ 32) :
    body.finding? = none ↔ body.Clean := by
  have clean : inspect body.contents = none ↔ _ := inspect_eq_iff short fun fault => nofun
  rw [finding?, Option.map_eq_none_iff, clean]
  refine ⟨fun parts => ?_, fun clean => ?_⟩
  · rcases parts with ⟨ops, place, ⟨start, localsRead, run⟩, plain, stays, stops⟩
    obtain ⟨last, read, harmless, closes, outermost⟩ := stops.of_none
    have whole : body.Reaches (ops ++ [last]) [] :=
      ⟨start, localsRead, run.append (.cons read .nil)⟩
    have all : ∀ op ∈ ops ++ [last], MemoryOpcode.ofOpcode? op = none :=
      List.forall_mem_append.mpr ⟨plain, List.forall_mem_singleton.mpr harmless⟩
    have total : level (ops ++ [last]) = -1 := by
      rw [level_append, level_cons, level_nil, outermost, change_eq_neg_one_iff.mpr closes]
      rfl
    exact ⟨ops, last, whole, all, stays, total⟩
  · rcases clean with ⟨ops, last, ⟨start, localsRead, run⟩, plain, stays, total⟩
    obtain ⟨place, before, final⟩ := run.split
    obtain ⟨earlier, harmless⟩ := List.forall_mem_append.mp plain
    have left := stays.nonneg
    have lowest := change_ge last
    rw [level_append, level_cons, level_nil] at total
    cases final with
    | cons read done =>
        cases done with
        | nil =>
            -- The last instruction lowers the depth by one at most, so it starts from no open block.
            have outermost : level ops = 0 := by omega
            have closes : last.nesting = .closes := change_eq_neg_one_iff.mp (by omega)
            have stops : Stops (level ops) place (afterClose []) :=
              .closed read (harmless last List.mem_cons_self) closes outermost
            exact ⟨ops, place, ⟨start, localsRead, before⟩, earlier, stays, stops⟩

/-- Bodies that were cut out of a section are short enough for their blocks to be counted. -/
theorem Framed.finding?_eq_none_iff {payload : Bytes} {bodies : List FunctionBody}
    (framed : Framed payload bodies) (member : body ∈ bodies) : body.finding? = none ↔ body.Clean := by
  obtain ⟨i, at_i⟩ := List.mem_iff_getElem?.mp member
  obtain ⟨-, short, -⟩ := framed.body at_i
  exact FunctionBody.finding?_eq_none_iff short

theorem finding?_eq_some_iff {other : FunctionBody} {found : Finding} :
    body.finding? = some (other, found) ↔ other = body ∧ inspect body.contents = some found := by
  unfold finding?
  cases inspect body.contents <;> simp [eq_comm]

theorem finding?_eq_access_iff (short : body.contents.length < 2 ^ 32) {other : FunctionBody}
    {opcode : MemoryOpcode} {place : Bytes} :
    body.finding? = some (other, .access opcode place) ↔
      other = body ∧ ∃ ops op rest, body.Reaches ops place ∧
        (∀ earlier ∈ ops, MemoryOpcode.ofOpcode? earlier = none) ∧ StaysOpen 0 ops ∧
        next place = .ok (op, rest) ∧ MemoryOpcode.ofOpcode? op = some opcode := by
  have access : inspect body.contents = some (.access opcode place) ↔ _ :=
    inspect_eq_iff short fun fault => nofun
  rw [finding?_eq_some_iff, access]
  apply and_congr_right
  intro _
  refine ⟨fun parts => ?_, fun parts => ?_⟩
  · rcases parts with ⟨ops, _, reaches, plain, stays, stops⟩
    obtain ⟨rfl, op, rest, read, memory⟩ := stops.of_access
    exact ⟨ops, op, rest, reaches, plain, stays, read, memory⟩
  · rcases parts with ⟨ops, op, rest, reaches, plain, stays, read, memory⟩
    exact ⟨ops, place, reaches, plain, stays, .access read memory⟩

end FunctionBody

/-! ## Verdicts -/

namespace Verdict

variable {payload : Bytes} {found : Option (FunctionBody × Finding)}

theorem ofFinding_eq_none_iff : ofFinding payload found = .ok none ↔ found = none := by
  unfold ofFinding
  split <;> simp

theorem ofFinding_eq_use_iff {use : MemoryUse} :
    ofFinding payload found = .ok (some use) ↔
      ∃ body place, found = some (body, .access use.opcode place) ∧ use.function = body.index ∧
        use.offset = body.offset payload place := by
  unfold ofFinding
  split
  · simp
  · rename_i body opcode place
    refine ⟨fun same => ?_, fun parts => ?_⟩
    · cases same
      exact ⟨body, place, rfl, rfl, rfl⟩
    · obtain ⟨opcode', function, offset⟩ := use
      rcases parts with ⟨_, _, same, rfl, rfl⟩
      cases same
      rfl
  · simp
  · simp

theorem ofFinding_ne_malformedCode {offset : Nat} {reason : Reason} :
    ofFinding payload found ≠ .error (.malformedCode offset reason) := by
  unfold ofFinding
  split <;> simp

end Verdict

/-- The verdict that a memory is used, on a body that stands somewhere in the section. -/
theorem FunctionBody.verdict_eq_use_iff {body : FunctionBody} (short : body.contents.length < 2 ^ 32)
    {payload before : Bytes} (split : payload = before ++ (body.contents ++ body.rest))
    {use : MemoryUse} :
    body.verdict payload = .ok (some use) ↔
      use.function = body.index ∧ body.Uses payload use.opcode use.offset := by
  unfold verdict
  rw [Verdict.ofFinding_eq_use_iff]
  refine ⟨fun parts => ?_, fun parts => ?_⟩
  · rcases parts with ⟨other, place, found, numbered, counted⟩
    obtain ⟨rfl, ops, op, rest, reaches, plain, stays, read, memory⟩ :=
      (finding?_eq_access_iff short).mp found
    obtain ⟨front, whole⟩ := reaches.stands split
    refine ⟨numbered, ops, op, place, rest, front, reaches, plain, stays, read, memory, whole, ?_⟩
    rw [counted, offset_eq whole]
  · rcases parts with
      ⟨numbered, ops, op, place, rest, front, reaches, plain, stays, read, memory, whole, counted⟩
    have found := (finding?_eq_access_iff short).mpr
      ⟨rfl, ops, op, rest, reaches, plain, stays, read, memory⟩
    have offset : use.offset = body.offset payload place := by rw [← counted, offset_eq whole]
    exact ⟨body, place, found, numbered, offset⟩

/-! ## All bodies -/

namespace Module

open FunctionBody

section First

variable {α β : Type} {all : List α} {i : Nat} {a : α}

theorem exists_first {p : α → Prop} (exception : ¬∀ a ∈ all, p a) :
    ∃ (i : Nat) (a : α), all[i]? = some a ∧ (∀ earlier ∈ all.take i, p earlier) ∧ ¬p a := by
  induction all with
  | nil => exact absurd (fun a member => nomatch member) exception
  | cons a all ih =>
      by_cases here : p a
      · have later : ¬∀ b ∈ all, p b := fun others =>
          exception (List.forall_mem_cons.mpr ⟨here, others⟩)
        obtain ⟨i, b, at_i, before, refused⟩ := ih later
        exact ⟨i + 1, b, at_i, List.forall_mem_cons.mpr ⟨here, before⟩, refused⟩
      · exact ⟨0, a, rfl, List.forall_mem_nil p, here⟩

theorem findSome?_eq_of_first {f : α → Option β} (at_i : all[i]? = some a)
    (before : ∀ earlier ∈ all.take i, f earlier = none) (found : f a ≠ none) :
    all.findSome? f = f a := by
  obtain ⟨b, result⟩ := Option.ne_none_iff_exists'.mp found
  obtain ⟨among, rfl⟩ := List.getElem?_eq_some_iff.mp at_i
  rw [result]
  refine List.findSome?_eq_some_iff.mpr ⟨all.take i, _, all.drop (i + 1), ?_, result, before⟩
  rw [List.getElem_cons_drop, List.take_append_drop]

end First

variable {m : Module} {code : Section} {bodies : List FunctionBody}

theorem scan_of_framed (found : m.section? .code = some code) (framed : Framed code.payload bodies) :
    m.scan = .ofFinding code.payload (bodies.findSome? finding?) := by
  have cut : m.bodies = .ok (code.payload, bodies) := by
    unfold Module.bodies
    rw [found]
    simp only [parse_ok_iff.mpr framed]
  unfold scan
  rw [cut]
  rfl

theorem scan_malformedCode_iff (found : m.section? .code = some code) :
    (∃ offset reason, m.scan = .error (.malformedCode offset reason)) ↔
      ¬∃ bodies, Framed code.payload bodies := by
  refine ⟨fun failed => ?_, fun unframed => ?_⟩
  · intro framed
    rcases failed with ⟨offset, reason, failed⟩
    rcases framed with ⟨bodies, framed⟩
    rw [scan_of_framed found framed] at failed
    exact Verdict.ofFinding_ne_malformedCode failed
  · cases cut : parse code.payload with
    | ok bodies => exact absurd ⟨bodies, parse_ok_iff.mp cut⟩ unframed
    | error fault =>
        have uncut : m.bodies =
            .error (.malformedCode (Bytes.offset code.payload fault.rest) fault.reason) := by
          unfold Module.bodies
          rw [found]
          simp only [cut]
        refine ⟨Bytes.offset code.payload fault.rest, fault.reason, ?_⟩
        unfold scan
        rw [uncut]
        rfl

/-- A verdict that says something of a function is one on a code section that can be cut into bodies. -/
theorem exists_framed_of_scan {verdict : Verdict} (run : m.scan = verdict) (notClean : verdict ≠ .ok none)
    (cut : ∀ offset reason, verdict ≠ .error (.malformedCode offset reason)) :
    ∃ code bodies, m.section? .code = some code ∧ Framed code.payload bodies := by
  cases found : m.section? .code with
  | none =>
      have nothing : m.scan = .ok none := by
        unfold scan Module.bodies
        rw [found]
        rfl
      exact absurd (run.symm.trans nothing) notClean
  | some code =>
      apply Classical.byContradiction
      intro uncut
      have unframed : ¬∃ bodies, Framed code.payload bodies :=
        fun ⟨bodies, framed⟩ => uncut ⟨code, bodies, rfl, framed⟩
      obtain ⟨offset, reason, failed⟩ := (scan_malformedCode_iff found).mpr unframed
      exact cut offset reason (run.symm.trans failed)

theorem scan_clean_iff (found : m.section? .code = some code) (framed : Framed code.payload bodies) :
    m.scan = .ok none ↔ ∀ body ∈ bodies, body.Clean := by
  rw [scan_of_framed found framed, Verdict.ofFinding_eq_none_iff, List.findSome?_eq_none_iff]
  apply forall₂_congr
  intro body member
  exact framed.finding?_eq_none_iff member

/-- The first body that is not clean decides. -/
theorem scan_of_first (found : m.section? .code = some code) (framed : Framed code.payload bodies)
    {i : Nat} {body : FunctionBody} (at_i : bodies[i]? = some body)
    (before : ∀ earlier ∈ bodies.take i, earlier.Clean) (unclean : ¬body.Clean) :
    m.scan = body.verdict code.payload := by
  have nothing : ∀ earlier ∈ bodies.take i, earlier.finding? = none := by
    intro earlier member
    have among := List.mem_of_mem_take member
    exact (framed.finding?_eq_none_iff among).mpr (before earlier member)
  have something : body.finding? ≠ none := by
    intro none
    have among := List.mem_of_getElem? at_i
    exact unclean ((framed.finding?_eq_none_iff among).mp none)
  rw [scan_of_framed found framed, findSome?_eq_of_first at_i nothing something, verdict]

/-- A verdict other than that nothing is found is one on the first body that is not clean. `P` says when it
is given on a body, which is known by its index. -/
theorem scan_eq_iff_at (found : m.section? .code = some code) (framed : Framed code.payload bodies)
    {verdict : Verdict} (notClean : verdict ≠ .ok none) {function : UInt32} {P : FunctionBody → Prop}
    (each : ∀ {body before}, body.contents.length < 2 ^ 32 →
      code.payload = before ++ (body.contents ++ body.rest) →
      (body.verdict code.payload = verdict ↔ function = body.index ∧ P body)) :
    m.scan = verdict ↔
      ∃ body, bodies[function.toNat]? = some body ∧
        (∀ earlier ∈ bodies.take function.toNat, earlier.Clean) ∧ P body := by
  refine ⟨fun result => ?_, fun parts => ?_⟩
  · have exception : ¬∀ body ∈ bodies, body.Clean := by
      intro clean
      rw [(scan_clean_iff found framed).mpr clean] at result
      exact notClean result.symm
    obtain ⟨i, body, at_i, before, unclean⟩ := exists_first exception
    obtain ⟨numbered, short, front, split⟩ := framed.body at_i
    rw [scan_of_first found framed at_i before unclean, each short split] at result
    obtain ⟨same, holds⟩ := result
    rw [same, numbered]
    exact ⟨body, at_i, before, holds⟩
  · rcases parts with ⟨body, at_i, before, holds⟩
    obtain ⟨numbered, short, front, split⟩ := framed.body at_i
    have result := (each short split).mpr ⟨UInt32.toNat_inj.mp numbered.symm, holds⟩
    have unclean : ¬body.Clean := by
      intro clean
      rw [FunctionBody.verdict, (finding?_eq_none_iff short).mpr clean] at result
      exact notClean result.symm
    rw [scan_of_first found framed at_i before unclean, result]

theorem scan_use_iff (found : m.section? .code = some code) (framed : Framed code.payload bodies)
    {use : MemoryUse} :
    m.scan = .ok (some use) ↔
      ∃ body, bodies[use.function.toNat]? = some body ∧
        (∀ earlier ∈ bodies.take use.function.toNat, earlier.Clean) ∧
        body.Uses code.payload use.opcode use.offset := by
  have used : (.ok (some use) : Verdict) ≠ .ok none := nofun
  exact scan_eq_iff_at found framed used fun short split => verdict_eq_use_iff short split

/-- What the inspection of a module amounts to. Without a code section there is nothing to find. A code
section that cannot be cut into bodies is refused whatever they contain. Otherwise the first body that
is not clean decides, and a use of memory is the first of its body. -/
theorem scan_exact (m : Module) :
    match m.section? .code with
    | none => m.scan = .ok none
    | some code =>
      ((∃ offset reason, m.scan = .error (.malformedCode offset reason)) ↔
        ¬∃ bodies, Framed code.payload bodies) ∧
      ∀ bodies, Framed code.payload bodies →
        (m.scan = .ok none ↔ ∀ body ∈ bodies, body.Clean) ∧
        (∀ use, m.scan = .ok (some use) ↔
          ∃ body, bodies[use.function.toNat]? = some body ∧
            (∀ earlier ∈ bodies.take use.function.toNat, earlier.Clean) ∧
            body.Uses code.payload use.opcode use.offset) ∧
        ∀ (i : Nat) body, bodies[i]? = some body → (∀ earlier ∈ bodies.take i, earlier.Clean) →
          ¬body.Clean → m.scan = body.verdict code.payload := by
  cases found : m.section? .code with
  | none =>
      have nothing : m.bodies = .ok ([], []) := by
        unfold Module.bodies
        rw [found]
      show m.scan = .ok none
      unfold scan
      rw [nothing]
      rfl
  | some code =>
      refine ⟨scan_malformedCode_iff found, fun bodies framed => ?_⟩
      have first : ∀ (i : Nat) body, bodies[i]? = some body →
          (∀ earlier ∈ bodies.take i, earlier.Clean) → ¬body.Clean →
          m.scan = body.verdict code.payload :=
        fun i body at_i before unclean => scan_of_first found framed at_i before unclean
      exact ⟨scan_clean_iff found framed, fun use => scan_use_iff found framed, first⟩

end Module

end Memoryless

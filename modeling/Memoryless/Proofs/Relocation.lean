import Memoryless.Draft
import Memoryless.Proofs.MemoryGate

/-!
# Bodies in other places

What is said of a body depends on where the body stands only in two ways: the verdict names the function by
its place among the bodies, and gives an offset that counts from the start of the section.
`Verdict.relocate` changes a verdict in these two ways, and `FunctionBody.verdict_relocate` says that this is
all that happens to a body that stands elsewhere. There is one exception. The arity of a typed selection is
reported with its offset in the body, which stays the same wherever the body stands.

`Module.scan_ofBodies` draws the conclusion for a section that is written from its bodies: it is cut into
these bodies again, and the verdict on all of them is known from the verdicts on each of them alone.
-/

namespace Memoryless

namespace Verdict

/-- The verdict about another function, `distance` bytes further on. -/
def relocate (function : UInt32) (distance : Nat) : Verdict → Verdict
  | .ok none => .ok none
  | .ok (some use) => .ok (some ⟨use.opcode, function, use.offset + distance⟩)
  | .error (.unknownOpcode op _ offset) => .error (.unknownOpcode op function (offset + distance))
  | .error (.malformedBody _ offset reason) => .error (.malformedBody function (offset + distance) reason)
  | .error (.malformedCode offset reason) => .error (.malformedCode (offset + distance) reason)

/-- What is wrong with a malformed body. -/
def reason? : Verdict → Option Reason
  | .error (.malformedBody _ _ reason) => some reason
  | _ => none

end Verdict

namespace FunctionBody

variable {body other : FunctionBody} {payload payload' before before' : Bytes} {distance : Nat}

theorem Clean.congr (same : other.contents = body.contents) : other.Clean ↔ body.Clean := by
  unfold Clean Reaches
  rw [same]

/-- A place in the body moves with the body. -/
theorem offset_relocate (same : other.contents = body.contents)
    (here : payload = before ++ (body.contents ++ body.rest))
    (there : payload' = before' ++ (other.contents ++ other.rest))
    (far : before'.length = before.length + distance) {place : Bytes} (inside : place <:+ body.contents) :
    other.offset payload' place = body.offset payload place + distance := by
  obtain ⟨skipped, contents⟩ := inside
  rw [same] at there
  rw [← contents, List.append_assoc, ← List.append_assoc] at here there
  rw [offset_eq here, offset_eq there, List.length_append, List.length_append, far]
  omega

/-- The verdict on a body, from the verdict on the same body in another place. -/
theorem verdict_relocate (same : other.contents = body.contents)
    (here : payload = before ++ (body.contents ++ body.rest))
    (there : payload' = before' ++ (other.contents ++ other.rest))
    (far : before'.length = before.length + distance) :
    other.verdict payload' =
      (body.verdict payload).relocate other.index
        (if (body.verdict payload).reason? = some .resultArity then 0 else distance) := by
  unfold verdict finding?
  rw [same]
  cases result : inspect body.contents with
  | none => rfl
  | some found =>
      have moved : other.offset payload' found.place = body.offset payload found.place + distance :=
        offset_relocate same here there far (inspect_suffix result)
      simp only [Option.map_some]
      cases found with
      | access opcode place =>
          rw [Finding.place] at moved
          simp only [Verdict.ofFinding, Verdict.reason?, reduceCtorEq, if_false, Verdict.relocate, moved]
      | unreadable fault =>
          cases fault with
          | unknownOpcode op place =>
              rw [Finding.place, CodeFault.rest] at moved
              simp only [Verdict.ofFinding, Verdict.reason?, reduceCtorEq, if_false, Verdict.relocate, moved]
          | malformed fault =>
              rw [Finding.place, CodeFault.rest] at moved
              by_cases arity : fault.reason = .resultArity
              · simp only [Verdict.ofFinding, Verdict.reason?, arity, if_true, Verdict.relocate, faultOffset,
                  same, Nat.add_zero]
              · simp only [Verdict.ofFinding, Verdict.reason?, Option.some.injEq, arity, if_false,
                  Verdict.relocate, faultOffset, moved]

end FunctionBody

/-! ## Written sections -/

namespace FunctionBody

open Draft

/-- The bodies in a section that is written from them, numbered from `first`. -/
def laidOut (first : Nat) : List Bytes → List FunctionBody
  | [] => []
  | contents :: bodies =>
    ⟨first.toUInt32, contents, bodies.flatMap writeSized⟩ :: laidOut (first + 1) bodies

theorem map_contents_laidOut (first : Nat) (bodies : List Bytes) :
    (laidOut first bodies).map contents = bodies := by
  induction bodies generalizing first with
  | nil => rfl
  | cons b bodies ih => rw [laidOut, List.map_cons, ih]

theorem length_laidOut (first : Nat) (bodies : List Bytes) :
    (laidOut first bodies).length = bodies.length := by
  rw [← List.length_map contents, map_contents_laidOut]

theorem getElem?_laidOut (first : Nat) (front back : List Bytes) (b : Bytes) :
    (laidOut first (front ++ b :: back))[front.length]? =
      some ⟨(first + front.length).toUInt32, b, back.flatMap writeSized⟩ := by
  induction front generalizing first with
  | nil => rfl
  | cons a front ih =>
      rw [List.cons_append, laidOut, List.length_cons, List.getElem?_cons_succ, ih, Nat.add_right_comm,
        Nat.add_assoc]

theorem findSome?_laidOut_eq_none_iff {bodies : List Bytes} (first : Nat) :
    (laidOut first bodies).findSome? finding? = none ↔ ∀ b ∈ bodies, inspect b = none := by
  rw [List.findSome?_eq_none_iff, ← map_contents_laidOut first bodies, List.forall_mem_map,
    map_contents_laidOut]
  exact forall₂_congr fun body _ => Option.map_eq_none_iff

theorem findSome?_laidOut {front back : List Bytes} {b : Bytes} {finding : Finding}
    (before : ∀ earlier ∈ front, inspect earlier = none) (found : inspect b = some finding)
    (first : Nat) :
    (laidOut first (front ++ b :: back)).findSome? finding? =
      some (⟨(first + front.length).toUInt32, b, back.flatMap writeSized⟩, finding) := by
  induction front generalizing first with
  | nil =>
      rw [List.nil_append, laidOut, List.findSome?_cons, finding?, found]
      rfl
  | cons a front ih =>
      obtain ⟨here, later⟩ := List.forall_mem_cons.mp before
      have passed : finding? ⟨first.toUInt32, a, (front ++ b :: back).flatMap writeSized⟩ = none :=
        Option.map_eq_none_iff.mpr here
      rw [List.cons_append, laidOut, List.findSome?_cons, passed, List.length_cons, ih later (first + 1),
        Nat.add_right_comm, Nat.add_assoc]

theorem listed_laidOut {bodies : List Bytes} (short : ∀ b ∈ bodies, b.length < 2 ^ 32) (first : Nat) :
    Listed first (bodies.flatMap writeSized) (laidOut first bodies) := by
  induction bodies generalizing first with
  | nil => exact .nil
  | cons b bodies ih =>
      obtain ⟨here, later⟩ := List.forall_mem_cons.mp short
      rw [List.flatMap_cons, writeSized, List.append_assoc]
      exact .cons (.ofNat (by decide) here) (ih later (first + 1))

end FunctionBody

namespace Draft

open FunctionBody

variable {bodies : List Bytes}

theorem writeCode_eq (few : bodies.length < 2 ^ 32) :
    writeCode bodies = Leb128.ofNat bodies.length ++ bodies.flatMap writeSized := by
  rw [writeCode, Nat.toUInt32_eq, UInt32.toNat_ofNat_of_lt' few]

theorem framed_writeCode (few : bodies.length < 2 ^ 32) (short : ∀ b ∈ bodies, b.length < 2 ^ 32) :
    Framed (writeCode bodies) (laidOut 0 bodies) := by
  refine ⟨_, bodies.flatMap writeSized, ?_, listed_laidOut short 0, writeCode_eq few⟩
  rw [length_laidOut]
  exact .ofNat (by decide) few

/-- What is written before a body: how many bodies there are, those in front of it, and its size. -/
def beforeBody (count : Nat) (front : List Bytes) (contents : Bytes) : Bytes :=
  Leb128.ofNat count ++ (front.flatMap writeSized ++ Leb128.ofNat contents.length)

theorem beforeBody_le {count : Nat} {front : List Bytes} {b : Bytes} (some : 1 ≤ count) :
    (beforeBody 1 [] b).length ≤ (beforeBody count front b).length := by
  have counts := Leb128.length_ofNat_mono some
  simp only [beforeBody, List.length_append, List.flatMap_nil, List.nil_append]
  omega

theorem writeCode_split {front back : List Bytes} {b : Bytes} (few : bodies.length < 2 ^ 32)
    (split : bodies = front ++ b :: back) :
    writeCode bodies = beforeBody bodies.length front b ++ (b ++ back.flatMap writeSized) := by
  rw [writeCode_eq few]
  conv_lhs => rw [split, List.flatMap_append, List.flatMap_cons, writeSized]
  simp only [← split, beforeBody, List.append_assoc]

end Draft

namespace Module

open FunctionBody Draft

variable {bodies : List Bytes} {b : Bytes}

/-- The module that has nothing but these bodies. -/
def ofBodies (bodies : List Bytes) : Module :=
  ⟨[⟨.code, writeCode bodies⟩]⟩

theorem section?_ofBodies (bodies : List Bytes) :
    (ofBodies bodies).section? .code = some ⟨.code, writeCode bodies⟩ :=
  rfl

/-- The one body of a section that is written from it. -/
def onlyBody (contents : Bytes) : FunctionBody :=
  ⟨0, contents, []⟩

theorem framed_alone (short : b.length < 2 ^ 32) : Framed (writeCode [b]) [onlyBody b] :=
  have single : [b].length < 2 ^ 32 := Nat.one_lt_two_pow (by decide)
  framed_writeCode single (List.forall_mem_singleton.mpr short)

theorem scan_alone (short : b.length < 2 ^ 32) :
    (ofBodies [b]).scan = (onlyBody b).verdict (writeCode [b]) := by
  rw [scan_of_framed (section?_ofBodies [b]) (framed_alone short), List.findSome?_singleton, verdict]

theorem scan_alone_clean_iff (short : b.length < 2 ^ 32) {body : FunctionBody} (same : body.contents = b) :
    (ofBodies [b]).scan = .ok none ↔ body.Clean := by
  rw [scan_clean_iff (section?_ofBodies [b]) (framed_alone short), List.forall_mem_singleton]
  exact Clean.congr same.symm

theorem all_clean_iff {found : List FunctionBody} (written : found.map contents = bodies)
    (short : ∀ b ∈ bodies, b.length < 2 ^ 32) :
    (∀ body ∈ found, body.Clean) ↔ ∀ b ∈ bodies, (ofBodies [b]).scan = .ok none := by
  rw [← written, List.forall_mem_map]
  apply forall₂_congr
  intro body member
  have among : body.contents ∈ bodies := written ▸ List.mem_map_of_mem member
  exact (scan_alone_clean_iff (short _ among) rfl).symm

/-- The first body that is not clean alone decides, and all that changes is its place. -/
theorem scan_of_first_alone (few : bodies.length < 2 ^ 32) (short : ∀ b ∈ bodies, b.length < 2 ^ 32)
    {front back : List Bytes} (split : bodies = front ++ b :: back)
    (before : ∀ earlier ∈ front, (ofBodies [earlier]).scan = .ok none)
    (unclean : (ofBodies [b]).scan ≠ .ok none) {distance : Nat}
    (far : (beforeBody bodies.length front b).length = (beforeBody 1 [] b).length + distance) :
    (ofBodies bodies).scan =
      (ofBodies [b]).scan.relocate front.length.toUInt32
        (if (ofBodies [b]).scan.reason? = some .resultArity then 0 else distance) := by
  have among : ∀ earlier ∈ front, earlier ∈ bodies := fun earlier member =>
    split ▸ List.mem_append_left _ member
  have shortHere : b.length < 2 ^ 32 := short b (split ▸ List.mem_append_right front List.mem_cons_self)
  let body : FunctionBody := ⟨front.length.toUInt32, b, back.flatMap writeSized⟩
  have at_i : (laidOut 0 bodies)[front.length]? = some body := by
    rw [split, getElem?_laidOut, Nat.zero_add]
  have written : ((laidOut 0 bodies).take front.length).map contents = front := by
    rw [List.map_take, map_contents_laidOut, split, List.take_left]
  have cleanBefore : ∀ earlier ∈ (laidOut 0 bodies).take front.length, earlier.Clean :=
    (all_clean_iff written fun earlier member => short earlier (among earlier member)).mpr before
  have uncleanHere : ¬body.Clean := fun clean => unclean ((scan_alone_clean_iff shortHere rfl).mpr clean)
  have same : body.contents = (onlyBody b).contents := rfl
  have alone : writeCode [b] = beforeBody 1 [] b ++ (b ++ []) :=
    @writeCode_split [b] [] [] b (Nat.one_lt_two_pow (by decide)) rfl
  rw [scan_of_first (section?_ofBodies bodies) (framed_writeCode few short) at_i cleanBefore uncleanHere,
    scan_alone shortHere]
  exact verdict_relocate same alone (writeCode_split few split) far

/-- What is said of a section that is written from its bodies. The section is cut into them, in order, and is
clean if each of them alone is clean. Otherwise the first that is not decides: the verdict on it alone holds
for its place among the others, and an offset moves as far as the body does, except for the offset of a
result arity. -/
theorem scan_ofBodies (few : bodies.length < 2 ^ 32) (short : ∀ b ∈ bodies, b.length < 2 ^ 32) :
    (∀ offset reason, (ofBodies bodies).scan ≠ .error (.malformedCode offset reason)) ∧
    (∃ found, (ofBodies bodies).bodies = .ok (writeCode bodies, found) ∧ found.map contents = bodies ∧
      found.map (fun body => body.index.toNat) = List.range bodies.length) ∧
    ((ofBodies bodies).scan = .ok none ↔ ∀ b ∈ bodies, (ofBodies [b]).scan = .ok none) ∧
    ∀ front b back, bodies = front ++ b :: back →
      (∀ earlier ∈ front, (ofBodies [earlier]).scan = .ok none) → (ofBodies [b]).scan ≠ .ok none →
      ∃ distance, (beforeBody bodies.length front b).length = (beforeBody 1 [] b).length + distance ∧
        (ofBodies bodies).scan =
          (ofBodies [b]).scan.relocate front.length.toUInt32
            (if (ofBodies [b]).scan.reason? = some .resultArity then 0 else distance) := by
  have framed := framed_writeCode few short
  refine ⟨?_, ⟨laidOut 0 bodies, ?_, map_contents_laidOut 0 bodies, ?_⟩, ?_, ?_⟩
  · intro offset reason malformed
    exact (scan_malformedCode_iff (section?_ofBodies bodies)).mp ⟨offset, reason, malformed⟩ ⟨_, framed⟩
  · unfold Module.bodies
    rw [section?_ofBodies]
    simp only [parse_ok_iff.mpr framed]
  · rw [framed.indices, length_laidOut]
  · rw [scan_clean_iff (section?_ofBodies bodies) framed]
    exact all_clean_iff (map_contents_laidOut 0 bodies) short
  · intro front b back split before unclean
    have some : 1 ≤ bodies.length :=
      List.length_pos_of_mem (split ▸ List.mem_append_right front List.mem_cons_self)
    obtain ⟨distance, far⟩ := Nat.exists_eq_add_of_le (beforeBody_le some)
    exact ⟨distance, far, scan_of_first_alone few short split before unclean far⟩

/-- A `memory.size`, three bytes further on behind a body that does nothing. -/
theorem scan_ofBodies_size :
    ([[0x00, 0x0b], [0x00, 0x3f, 0x00, 0x1a, 0x0b]] : List Bytes).length < 2 ^ 32 ∧
      (∀ b ∈ ([[0x00, 0x0b], [0x00, 0x3f, 0x00, 0x1a, 0x0b]] : List Bytes), b.length < 2 ^ 32) ∧
      (ofBodies [[0x00, 0x3f, 0x00, 0x1a, 0x0b]]).scan = .ok (some ⟨.memorySize, 0, 3⟩) ∧
      (ofBodies [[0x00, 0x0b], [0x00, 0x3f, 0x00, 0x1a, 0x0b]]).scan = .ok (some ⟨.memorySize, 1, 6⟩) := by
  have few : ([[0x00, 0x0b], [0x00, 0x3f, 0x00, 0x1a, 0x0b]] : List Bytes).length < 2 ^ 32 := by decide
  have short :
      ∀ b ∈ ([[0x00, 0x0b], [0x00, 0x3f, 0x00, 0x1a, 0x0b]] : List Bytes), b.length < 2 ^ 32 := by decide
  have clean : (ofBodies [[0x00, 0x0b]]).scan = .ok none := by cbv
  have alone : (ofBodies [[0x00, 0x3f, 0x00, 0x1a, 0x0b]]).scan = .ok (some ⟨.memorySize, 0, 3⟩) := by cbv
  have unclean : (ofBodies [[0x00, 0x3f, 0x00, 0x1a, 0x0b]]).scan ≠ .ok none := by
    intro clean
    cases alone.symm.trans clean
  obtain ⟨-, -, -, first⟩ := scan_ofBodies few short
  obtain ⟨distance, far, moved⟩ := first [[0x00, 0x0b]] [0x00, 0x3f, 0x00, 0x1a, 0x0b] [] rfl
    (List.forall_mem_singleton.mpr clean) unclean
  have here : (beforeBody 1 [] [0x00, 0x3f, 0x00, 0x1a, 0x0b]).length = 2 := by cbv
  have there : (beforeBody 2 [[0x00, 0x0b]] [0x00, 0x3f, 0x00, 0x1a, 0x0b]).length = 5 := by cbv
  obtain rfl : distance = 3 := by
    rw [here] at far
    exact Nat.add_left_cancel (far.symm.trans there)
  rw [alone] at moved
  exact ⟨few, short, alone, moved⟩

/-- The offset of a result arity does not move with its body: here it is 3 in either place. -/
theorem arity_not_relocated :
    (ofBodies [[0x00, 0x0b]]).scan = .ok none ∧
      (ofBodies [[0x00, 0x1c, 0x02, 0x0b]]).scan = .error (.malformedBody 0 3 .resultArity) ∧
      (beforeBody 2 [[0x00, 0x0b]] [0x00, 0x1c, 0x02, 0x0b]).length =
        (beforeBody 1 [] [0x00, 0x1c, 0x02, 0x0b]).length + 3 ∧
      (ofBodies [[0x00, 0x0b], [0x00, 0x1c, 0x02, 0x0b]]).scan ≠
        (ofBodies [[0x00, 0x1c, 0x02, 0x0b]]).scan.relocate 1 3 := by
  have alone : (ofBodies [[0x00, 0x1c, 0x02, 0x0b]]).scan =
      .error (.malformedBody 0 3 .resultArity) := by cbv
  have joint : (ofBodies [[0x00, 0x0b], [0x00, 0x1c, 0x02, 0x0b]]).scan =
      .error (.malformedBody 1 3 .resultArity) := by cbv
  refine ⟨by cbv, alone, by cbv, ?_⟩
  rw [alone, joint]
  decide

end Module

end Memoryless

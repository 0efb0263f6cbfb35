import Memoryless.Module
import Memoryless.Section.Frame

/-!
# Modules in binary form

A binary module is the header followed by the frames of its sections. In a file that is accepted, the
ranks of the sections that have one increase strictly, so none of those repeats. Payloads are kept
as they are: writing a module changes at most how the sizes of its sections are spelled.
-/

namespace Memoryless

/-- Why a file is not a binary module. -/
inductive DecodeError
  | malformedHeader
  | misframed (offset : Nat) (fault : FrameFault)
  deriving DecidableEq, Repr

/-- The wording of an error. -/
def DecodeError.message : DecodeError → String
  | malformedHeader => "malformed header: expected `\\0asm` magic and version 1"
  | misframed offset fault => fault.message offset

namespace Module

/-- The rank reached after a section, if it may follow a section of rank `last`. Ranks start at 1, so
any section may come first. -/
def nextRank? (last : Nat) (id : SectionId) : Option Nat :=
  match id.rank? with
  | none => some last
  | some rank => if last < rank then some rank else none

/-- Reads sections to the end, after those in `taken`, which stand in reverse and have reached the rank
`last`. A fault comes with the place of the section that has it. -/
def readSections (last : Nat) (taken : List Section) :
    Bytes → Except (FrameFault × Bytes) (List Section)
  | [] => .ok taken.reverse
  | b :: s =>
    match SectionId.ofByte? b with
    | none => .error (.unknownId b, b :: s)
    | some id =>
      match _framed : Section.read id s with
      | .error fault => .error (fault, b :: s)
      | .ok (found, rest) =>
        match nextRank? last id with
        | none => .error (.outOfOrder id, b :: s)
        | some rank => readSections rank (found :: taken) rest
termination_by s => s.length
decreasing_by exact Nat.lt_succ_of_le (Section.read_suffix _framed).length_le

/-- One section and what follows it. -/
theorem readSections_cons (last : Nat) (taken : List Section) (b : UInt8) (s : Bytes) :
    readSections last taken (b :: s) =
      match SectionId.ofByte? b with
      | none => .error (.unknownId b, b :: s)
      | some id =>
        match Section.read id s with
        | .error fault => .error (fault, b :: s)
        | .ok (found, rest) =>
          match nextRank? last id with
          | none => .error (.outOfOrder id, b :: s)
          | some rank => readSections rank (found :: taken) rest := by
  rw [readSections]
  cases SectionId.ofByte? b with
  | none => rfl
  | some id =>
      simp only
      cases Section.read id s <;> rfl

/-- What was read before is put in front of what is read from here on. -/
theorem readSections_taken (last : Nat) (taken : List Section) (s : Bytes) :
    readSections last taken s = (readSections last [] s).map (taken.reverse ++ ·) := by
  suffices general : ∀ more, readSections last (more ++ taken) s =
      (readSections last more s).map (taken.reverse ++ ·) by
    simpa using general []
  intro more
  fun_induction readSections last more s with
  | case1 => simp [readSections, Except.map]
  | case2 last more b s unknown => simp [readSections_cons, unknown, Except.map]
  | case3 last more b s id known fault framed =>
      simp [readSections_cons, known, framed, Except.map]
  | case4 last more b s id known found rest framed late =>
      simp [readSections_cons, known, framed, late, Except.map]
  | case5 last more b s id known found rest framed rank next ih =>
      simpa [readSections_cons, known, framed, next] using ih

/-- Reads a binary module. -/
def decode (file : Bytes) : Except DecodeError Module :=
  if file.take header.length = header then
    match readSections 0 [] (file.drop header.length) with
    | .error (fault, place) => .error (.misframed (Bytes.offset file place) fault)
    | .ok sections => .ok ⟨sections⟩
  else .error .malformedHeader

/-- Writes a binary module, with every size in its shortest form. -/
def encode (m : Module) : Bytes :=
  header ++ m.sections.flatMap Section.write

end Module

end Memoryless

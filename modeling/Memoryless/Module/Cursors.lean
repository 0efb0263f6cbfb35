import Memoryless.Module.Binary

/-!
# Reading a module in turns

The sections of a file can also be asked for one at a time. A `Framer` finds the next part of a file and
counts for itself how far it has come; the loop that asks it keeps the bytes that are left. Both have to
move on together, since payloads are cut out of the file by the count of the one and frames are read
from the bytes of the other. In most turns they do so by the number of bytes that the framer took. A
code section, though, is found as soon as the number of its bodies is read, and then each of them passes
over the rest of it on its own.

A cut outside of the bytes, and a framer that is asked for what it cannot do, are an end of their own:
`Stop.stuck`.
-/

namespace Memoryless

namespace Bytes

/-- The bytes from one offset up to another, if both are inside. -/
def slice? (start stop : Nat) (s : Bytes) : Option Bytes :=
  if start ≤ stop ∧ stop ≤ s.length then some ((s.take stop).drop start) else none

end Bytes

/-! ## Framers -/

/-- What a framer finds in a file. Of a section it gives the id byte and from where to where the payload
stands; of a code section also how much of that is not read yet. -/
inductive Part
  | header
  | frame (byte : UInt8) (start stop : Nat) (unread : Option Nat)
  | finished
  deriving DecidableEq, Repr

/-- What a framer expects next: the header, a section, or what is not read yet of a code section. -/
inductive FramerState
  | header
  | frame
  | code (unread : Nat)
  deriving DecidableEq, Repr

/-- What is expected behind a part. -/
def Part.after : Part → FramerState
  | frame _ _ _ (some unread) => .code unread
  | _ => .frame

/-- A reader of parts, by the offset that it has reached and what it expects there. -/
structure Framer where
  offset : Nat
  state : FramerState
  deriving DecidableEq, Repr

namespace Framer

/-- The framer of a whole file. -/
def start : Framer := ⟨0, .header⟩

/-- Checks how the payload of a section begins. Ids that are not known are left to the loop. -/
def checkPayload (byte : UInt8) (payload : Bytes) : Except Fault Unit :=
  match SectionId.ofByte? byte with
  | none => .ok ()
  | some id => (Section.opening id payload).map fun _ => ()

/-- The section, or the end of the file, that stands at an offset, and what is left behind it. An id byte
with its top bit set is refused for a cause that the loop does not look at. -/
def readFrame (unshown : Reason) (offset : Nat) : Bytes → Except Reason (Part × Bytes)
  | [] => .ok (.finished, [])
  | byte :: s =>
    if 0x80 ≤ byte then .error unshown
    else
      match Leb128.u32 s with
      | .error fault => .error fault.reason
      | .ok (size, contents) =>
        let start := offset + Bytes.offset (byte :: s) contents
        if byte = SectionId.code.byte then
          match Leb128.u32 contents with
          | .error fault => .error fault.reason
          | .ok (_, left) =>
            let taken := Bytes.offset contents left
            if size.toNat < taken then .error .endOfInput
            else .ok (.frame byte start (start + size.toNat) (some (size.toNat - taken)), left)
        else
          match Reader.bytes size.toNat contents with
          | .error fault => .error fault.reason
          | .ok (payload, left) =>
            match checkPayload byte payload with
            | .error fault => .error fault.reason
            | .ok _ => .ok (.frame byte start (start + size.toNat) none, left)

/-- What is made of a part that was found in front of what is left: the number of bytes taken, the part, and
the framer behind it. -/
def advance (f : Framer) (s : Bytes) (found : Part × Bytes) : Nat × Part × Framer :=
  let consumed := Bytes.offset s found.2
  (consumed, found.1, ⟨f.offset + consumed, found.1.after⟩)

/-- Finds the next part. Inside of a code section there is none to be found. -/
def parse (unshown : Reason) (f : Framer) (s : Bytes) : Option (Except Reason (Nat × Part × Framer)) :=
  match f.state with
  | .header =>
    some (if s.take header.length = header then .ok (f.advance s (.header, s.drop header.length))
      else .error unshown)
  | .frame => some ((readFrame unshown f.offset s).map (f.advance s))
  | .code _ => none

/-- Passes over what is not read yet of a code section. -/
def skip (f : Framer) : Option Framer :=
  match f.state with
  | .code unread => some ⟨f.offset + unread, .frame⟩
  | _ => none

end Framer

/-! ## The loop -/

/-- What the loop keeps: the framer, the bytes that are left, the sections taken so far, which stand in
reverse, and the rank they have reached. -/
structure Cursors where
  framer : Framer
  rest : Bytes
  taken : List Section
  rank : Nat
  deriving DecidableEq, Repr

/-- How the loop ends: all sections are taken, the file is refused, or there is no way to go on. -/
inductive Stop
  | done (sections : List Section)
  | refused (error : DecodeError)
  | stuck
  deriving DecidableEq, Repr

/-- What is made of a file by a loop that ends so. -/
def Stop.answer? : Stop → Option (Except DecodeError Module)
  | done sections => some (.ok ⟨sections⟩)
  | refused error => some (.error error)
  | stuck => none

namespace Cursors

/-- Before the first turn. -/
def start (file : Bytes) : Cursors := ⟨.start, file, [], 0⟩

/-- What is wrong with a section that the framer refused for a reason, given the bytes behind its id. The
size is read once more. -/
def frameFault (file : Bytes) (id : SectionId) (window : Bytes) (reason : Reason) : FrameFault :=
  match Leb128.u32 window with
  | .error fault =>
    if file.length ≤ Bytes.offset file fault.rest then .truncated id else .malformedSize id
  | .ok (size, contents) =>
    if contents.length < size.toNat then .truncated id else Section.openingFault id reason

/-- How the loop ends if the framer refused what stands at an offset. -/
def refuse (file : Bytes) (offset : Nat) (reason : Reason) : Stop :=
  match file[offset]? with
  | none => .refused .malformedHeader
  | some byte =>
    match SectionId.ofByte? byte with
    | none => .refused (.misframed offset (.unknownId byte))
    | some id =>
      match Bytes.from? (offset + 1) file with
      | none => .stuck
      | some window => .refused (.misframed offset (frameFault file id window reason))

/-- Passes over what the framer has not read of a section. -/
def pass (c : Cursors) (unread : Option Nat) (truncated : Stop) : Except Stop Cursors :=
  match unread with
  | none => .ok c
  | some n =>
    match c.framer.skip with
    | none => .error .stuck
    | some framer =>
      match Bytes.from? n c.rest with
      | none => .error truncated
      | some rest => .ok { c with framer, rest }

/-- Takes a section whose payload stands from one offset up to another. -/
def push (c : Cursors) (file : Bytes) (id : SectionId) (start stop : Nat) (outOfOrder truncated : Stop) :
    Except Stop Cursors :=
  match Module.nextRank? c.rank id with
  | none => .error outOfOrder
  | some rank =>
    match Bytes.slice? start stop file with
    | none => .error truncated
    | some payload => .ok { c with taken := ⟨id, payload⟩ :: c.taken, rank }

/-- One turn of the loop. -/
def turn (unshown : Reason) (file : Bytes) (c : Cursors) : Except Stop Cursors :=
  if file.length < c.rest.length then .error .stuck
  else
    let offset := Bytes.offset file c.rest
    match c.framer.parse unshown c.rest with
    | none => .error .stuck
    | some (.error reason) => .error (refuse file offset reason)
    | some (.ok (consumed, part, framer)) =>
      match Bytes.from? consumed c.rest with
      | none => .error .stuck
      | some rest =>
        match part with
        | .header => .ok { c with framer, rest }
        | .finished => .error (.done c.taken.reverse)
        | .frame byte start stop unread =>
          match SectionId.ofByte? byte with
          | none => .error (.refused (.misframed offset (.unknownId byte)))
          | some id => do
            let truncated := Stop.refused (.misframed offset (.truncated id))
            let c ← ({ c with framer, rest } : Cursors).pass unread truncated
            c.push file id start stop (.refused (.misframed offset (.outOfOrder id))) truncated

/-- What the loop over the parts of a file can have come to. It is entered behind a check of the header. -/
inductive Reached (unshown : Reason) (file : Bytes) : Cursors → Prop
  | start : file.take header.length = header → Reached unshown file (.start file)
  | turn {c next : Cursors} :
    Reached unshown file c → turn unshown file c = .ok next → Reached unshown file next

end Cursors

end Memoryless

import Memoryless.Name

/-!
# Frames

In a file, a section is framed by its id byte and the size of its payload. Reading a frame also looks
at how the payload begins, as far as the kind of section says: a custom section begins with a name,
the start section and the data count section are a single number, and every other payload begins
with a count. `read_suffix` says that what follows a frame is a place in what was given, so reading
frames ends.
-/

namespace Memoryless

/-- Why no section can be read at a place. -/
inductive FrameFault
  | unknownId (byte : UInt8)
  | truncated (id : SectionId)
  | malformedSize (id : SectionId)
  | malformedName
  | malformedPayload (id : SectionId) (reason : Reason)
  | outOfOrder (id : SectionId)
  deriving DecidableEq, Repr

/-- The wording of a framing fault of a section that starts at `offset`. -/
def FrameFault.message (offset : Nat) : FrameFault → String
  | unknownId byte =>
    s!"trailing bytes at offset {Numeral.hex offset} do not start a section " ++
      s!"(id byte {Numeral.hexByte byte})"
  | truncated id => s!"{id.name} section at offset {Numeral.hex offset} is truncated"
  | malformedSize id => s!"{id.name} section at offset {Numeral.hex offset} has a malformed size"
  | malformedName => s!"custom section at offset {Numeral.hex offset} has a malformed name"
  | malformedPayload id reason =>
    s!"malformed {id.name} section at offset {Numeral.hex offset}: {reason.message}"
  | outOfOrder id =>
    s!"{id.name} section at offset {Numeral.hex offset} is out of order or duplicated"

namespace Section

/-- How the payload of a section has to begin. A single number fills its payload. -/
def opening (id : SectionId) : Reader Unit :=
  match id with
  | .custom => Name.read.pass
  | .start | .dataCount => do
    let _ ← Leb128.u32
    Reader.finish (.afterNumber id)
  | _ => Leb128.u32.pass

/-- Checks how a payload begins, given what follows its size in the file and what follows the payload.
The number of function bodies is read before the code section is cut out of the file, so a count that
runs past the payload is only noticed afterwards. -/
def checkOpening (id : SectionId) (contents payload rest : Bytes) : Except Reason Unit :=
  match id with
  | .code =>
    match Leb128.u32 contents with
    | .error fault => .error fault.reason
    | .ok (_, left) => if left.length < rest.length then .error .endOfInput else .ok ()
  | id =>
    match opening id payload with
    | .error fault => .error fault.reason
    | .ok _ => .ok ()

/-- The fault of a section whose payload does not begin as it should. -/
def openingFault (id : SectionId) (reason : Reason) : FrameFault :=
  if id = .custom then .malformedName else .malformedPayload id reason

/-- Reads the frame of a section. The size is judged before the payload: one that does not end in the
file, or that says more than there is, makes a truncated section. -/
def read (id : SectionId) (s : Bytes) : Except FrameFault (Section × Bytes) :=
  match Leb128.u32 s with
  | .error fault =>
    .error (if fault.reason = .endOfInput then .truncated id else .malformedSize id)
  | .ok (size, contents) =>
    match Reader.bytes size.toNat contents with
    | .error _ => .error (.truncated id)
    | .ok (payload, rest) =>
      match checkOpening id contents payload rest with
      | .error reason => .error (openingFault id reason)
      | .ok _ => .ok (⟨id, payload⟩, rest)

/-- Writes a section: its id, the size of its payload in the shortest form, and the payload. -/
def write (s : Section) : Bytes :=
  s.id.byte :: (Leb128.ofNat s.payload.length ++ s.payload)

theorem read_suffix {id : SectionId} {s : Bytes} {found : Section} {rest : Bytes}
    (run : read id s = .ok (found, rest)) : rest <:+ s := by
  simp only [read] at run
  split at run
  · cases run
  · rename_i size contents sizeRead
    split at run
    · cases run
    · rename_i payload left payloadRead
      split at run <;> cases run
      exact ((Reader.Within.bytes _).rest_suffix payloadRead).trans
        (Leb128.u32_within.rest_suffix sizeRead)

end Section

end Memoryless

import Memoryless.Integer
import Memoryless.Numeral
import Memoryless.Section

/-!
# Faults

What can be wrong with the bytes of a module, apart from how its sections are framed. A fault names a
cause and the place to blame for it; the wording of every cause is in `Reason.message`.
-/

namespace Memoryless

/-- Why some bytes could not be read. -/
inductive Reason
  | endOfInput
  | integerTooLong (format : IntegerFormat)
  | integerTooLarge (format : IntegerFormat)
  | stringSize
  | invalidUtf8
  | valueType
  | abstractHeapType
  | indexedHeapType
  | typeIndexLimit
  | functionType
  | alignment
  | laneIndex
  | branchTableSize
  | resultArity
  | catchesSize
  | catchKind (byte : UInt8)
  | castFlags (byte : UInt8)
  | reservedByte
  | atomicOrdering (value : Nat)
  | exportKind (byte : UInt8)
  | bodyPastEnd
  | missingEnd
  | afterOperators
  | afterEntries
  | afterNumber (id : SectionId)
  deriving DecidableEq, Repr

/-- The wording of a cause. -/
def Reason.message : Reason → String
  | endOfInput => "unexpected end-of-file"
  | integerTooLong format => s!"invalid {format.name}: integer representation too long"
  | integerTooLarge format => s!"invalid {format.name}: integer too large"
  | stringSize => "string size out of bounds"
  | invalidUtf8 => "malformed UTF-8 encoding"
  | valueType => "invalid value type"
  | abstractHeapType => "invalid abstract heap type"
  | indexedHeapType => "invalid indexed ref heap type"
  | typeIndexLimit => "type index greater than implementation limits"
  | functionType => "invalid function type"
  | alignment => "malformed memop flags: alignment too large"
  | laneIndex => "invalid lane index"
  | branchTableSize => "br_table size is out of bounds"
  | resultArity => "invalid result arity"
  | catchesSize => "catches size is out of bounds"
  | catchKind byte => s!"invalid leading byte ({Numeral.hex byte.toNat}) for catch"
  | castFlags byte => s!"invalid cast flags: {Numeral.bits byte}"
  | reservedByte => "nonzero byte after `atomic.fence`"
  | atomicOrdering value => s!"invalid atomic consistency ordering {value}"
  | exportKind byte => s!"invalid leading byte ({Numeral.hex byte.toNat}) for external kind"
  | bodyPastEnd => "function body extends past end of the code section"
  | missingEnd => "missing `end` of function"
  | afterOperators => "unexpected data at the end of operators"
  | afterEntries => "section size mismatch: unexpected data at the end of the section"
  | afterNumber id => s!"unexpected content in the {id.name} section"

/-- A cause, and the place to blame: what was left to read from there on. -/
structure Fault where
  reason : Reason
  rest : Bytes
  deriving DecidableEq, Repr

end Memoryless

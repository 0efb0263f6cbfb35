/-!
# Integer formats

The integers of a binary module are written in LEB128: seven bits a byte, the low ones first. A format
bounds how many bits the integer may have and says whether the last group carries a sign.
-/

namespace Memoryless

/-- The formats in which integers are written. -/
inductive IntegerFormat
  | u32 | u64 | i32 | s33 | i64
  deriving DecidableEq, Repr

namespace IntegerFormat

/-- The number of bits an integer of this format may have, the sign included. -/
def width : IntegerFormat → Nat
  | u32 | i32 => 32
  | s33 => 33
  | u64 | i64 => 64

/-- The name of a format in messages. -/
def name : IntegerFormat → String
  | u32 => "var_u32"
  | u64 => "var_u64"
  | i32 => "var_i32"
  | s33 => "var_s33"
  | i64 => "var_i64"

end IntegerFormat

end Memoryless

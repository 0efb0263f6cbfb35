import Memoryless.Leb128

/-!
# Names

Custom sections and exports carry names: a length in bytes, then so many bytes of UTF-8. A name is at
most `Name.limit` bytes long.
-/

namespace Memoryless.Name

/-- The longest name that is read, in bytes. -/
def limit : Nat := 100000

/-- A name in UTF-8, without its length. -/
def utf8 (name : String) : Bytes :=
  name.toByteArray.data.toList

/-- The name that some bytes spell. -/
def ofUtf8 (text : Bytes) : Except Reason String :=
  match String.fromUTF8? ⟨text.toArray⟩ with
  | some name => .ok name
  | none => .error .invalidUtf8

/-- The bytes of a name. A length past the limit is blamed on its last byte. -/
def readUtf8 : Reader Bytes := do
  let size ← Leb128.u32.require .last .stringSize fun n => n.toNat ≤ limit
  Reader.bytes size.toNat

/-- Reads a name. Text that is not UTF-8 is blamed on its last byte. -/
def read : Reader String :=
  readUtf8.refine .last ofUtf8

/-- Writes a name, its length in the shortest form. -/
def write (name : String) : Bytes :=
  let text := utf8 name
  Leb128.ofNat text.length ++ text

theorem read_within : read.Within :=
  ((Leb128.u32_within.require ..).bind fun _ => .bytes _).refine ..

end Memoryless.Name

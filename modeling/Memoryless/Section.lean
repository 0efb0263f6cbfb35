import Memoryless.Bytes

/-!
# Sections

A binary module is a sequence of sections, each an id and a payload. Custom sections may stand
anywhere; the others have a rank, their place in the layout of a module. The ids are not in rank
order: tags go before globals, and the data count before the code.
-/

namespace Memoryless

/-- The kinds of section a module may have. -/
inductive SectionId
  | custom | types | imports | functions | tables | memories | globals | exports | start | elements
  | code | data | dataCount | tags
  deriving DecidableEq, Repr, Inhabited

namespace SectionId

/-- Every kind of section, in the order of the id bytes. -/
def all : List SectionId :=
  [custom, types, imports, functions, tables, memories, globals, exports, start, elements, code,
    data, dataCount, tags]

/-- The byte that introduces a section of this kind. -/
def byte : SectionId → UInt8
  | custom => 0
  | types => 1
  | imports => 2
  | functions => 3
  | tables => 4
  | memories => 5
  | globals => 6
  | exports => 7
  | start => 8
  | elements => 9
  | code => 10
  | data => 11
  | dataCount => 12
  | tags => 13

/-- The kind of section that a byte introduces, if any. -/
def ofByte? : UInt8 → Option SectionId
  | 0 => some custom
  | 1 => some types
  | 2 => some imports
  | 3 => some functions
  | 4 => some tables
  | 5 => some memories
  | 6 => some globals
  | 7 => some exports
  | 8 => some start
  | 9 => some elements
  | 10 => some code
  | 11 => some data
  | 12 => some dataCount
  | 13 => some tags
  | _ => none

/-- The place of a section in the layout of a module. Custom sections may stand anywhere. -/
def rank? : SectionId → Option Nat
  | custom => none
  | types => some 1
  | imports => some 2
  | functions => some 3
  | tables => some 4
  | memories => some 5
  | tags => some 6
  | globals => some 7
  | exports => some 8
  | start => some 9
  | elements => some 10
  | dataCount => some 11
  | code => some 12
  | data => some 13

/-- The name of a section in messages. -/
def name : SectionId → String
  | custom => "custom"
  | types => "type"
  | imports => "import"
  | functions => "function"
  | tables => "table"
  | memories => "memory"
  | globals => "global"
  | exports => "export"
  | start => "start"
  | elements => "element"
  | code => "code"
  | data => "data"
  | dataCount => "data count"
  | tags => "tag"

theorem ofByte?_byte (id : SectionId) : ofByte? id.byte = some id := by
  cases id <;> rfl

theorem byte_of_ofByte? {b : UInt8} {id : SectionId} (known : ofByte? b = some id) :
    id.byte = b := by
  unfold ofByte? at known
  split at known <;> cases known <;> rfl

end SectionId

/-- A section: what kind it is, and its contents as they stand in the file. -/
structure Section where
  id : SectionId
  payload : Bytes
  deriving DecidableEq, Repr, Inhabited

end Memoryless

import Memoryless.Section

/-!
# Modules

A module is the list of its sections. Nothing is promised about it: sections may repeat, stand in
any order and hold anything. What a module read from a file satisfies is stated where it is read.
-/

namespace Memoryless

/-- The first bytes of every binary module: its magic number and version 1. -/
def header : Bytes := [0x00, 0x61, 0x73, 0x6d, 0x01, 0x00, 0x00, 0x00]

/-- A module as a list of sections. -/
structure Module where
  sections : List Section
  deriving DecidableEq, Repr, Inhabited

namespace Module

/-- The module without sections. -/
def empty : Module := ⟨[]⟩

/-- Appends a section. -/
def push (m : Module) (s : Section) : Module :=
  ⟨m.sections ++ [s]⟩

/-- The first section of a kind. -/
def section? (m : Module) (id : SectionId) : Option Section :=
  m.sections.find? fun s => s.id = id

/-- Where the first section of a kind stands. -/
def position? (m : Module) (id : SectionId) : Option Nat :=
  m.sections.findIdx? fun s => s.id = id

theorem id_of_section? {m : Module} {id : SectionId} {s : Section} (found : m.section? id = some s) :
    s.id = id := by
  simpa using List.find?_some found

end Module

end Memoryless

import Memoryless.Text.Pieces

/-!
# Paths and locations

A path is read from left to right: a name goes down, `.` stays, `..` goes up, and nothing between two
slashes says nothing. It starts at the root if its first character is a slash, else in the directory in
which the program runs. A location is where one gets to; whether one can go there at all is a matter of
the files.
-/

namespace Memoryless.Command

/-- A directory from which the names of a location lead down: some levels above the one in which the
program runs, or the root. -/
inductive Origin
  | above (levels : Nat)
  | root
  deriving DecidableEq, Repr

/-- The directory in which the program runs. -/
def Origin.here : Origin :=
  above 0

/-- The directory that holds an origin. The root holds itself. -/
def Origin.parent : Origin → Origin
  | above levels => above (levels + 1)
  | root => root

/-- A place among the files. -/
structure Location where
  origin : Origin
  names : List String
  deriving DecidableEq, Repr

/-- A step of a path. -/
inductive PathStep
  | stay
  | up
  | enter (name : String)
  deriving DecidableEq, Repr

/-- The step that a part of a path stands for. -/
def PathStep.ofPart (part : String) : PathStep :=
  if part = "." then stay else if part = ".." then up else enter part

namespace Location

/-- The longest name of a file, in bytes. -/
def nameLimit : Nat :=
  255

/-- The directory that holds a location. -/
def parent (l : Location) : Location :=
  if l.names = [] then ⟨l.origin.parent, []⟩ else ⟨l.origin, l.names.dropLast⟩

/-- Where a step leads. -/
def follow (l : Location) : PathStep → Location
  | .stay => l
  | .up => l.parent
  | .enter name => ⟨l.origin, l.names ++ [name]⟩

/-- Is the last name too long for a file? -/
def isTooLong (l : Location) : Bool :=
  l.names.getLast?.any fun name => nameLimit < name.utf8ByteSize

/-- What a name stands for in the directory in which the program runs. -/
def ofName (name : String) : Location :=
  ⟨.here, (Text.pieces '/' name.toList).map String.ofList⟩

/-- The name of a location below the directory in which the program runs. -/
def name? (l : Location) : Option String :=
  if l.origin = .here then some (String.intercalate "/" l.names) else none

end Location

/-- A path. -/
structure Path where
  origin : Origin
  steps : List PathStep
  endsInSlash : Bool
  deriving DecidableEq, Repr

namespace Path

/-- The longest path, in bytes. -/
def limit : Nat :=
  4095

/-- Reads a path. -/
def ofText (text : String) : Path where
  origin := if text.toList.head? = some '/' then .root else .here
  steps := ((Text.pieces '/' text.toList).filter fun part => !part.isEmpty).map fun part =>
    .ofPart (String.ofList part)
  endsInSlash := text.toList.getLast? = some '/'

end Path

end Memoryless.Command

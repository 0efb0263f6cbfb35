/-!
# What of a text is visible

A text on its way to a place that is not a terminal, without its control characters and without the
escape sequences that would have told a terminal what to do. Tabs, form feeds and line breaks stay.
-/

namespace Memoryless.Text

/-- Does the character break the line or move along it? -/
def isBreak (c : Char) : Bool :=
  c = '\t' || c = '\n' || c = '\x0c' || c = '\r'

/-- Is there something to see of the character, or at least of its effect on the layout? -/
def isVisible (c : Char) : Bool :=
  isBreak c || ' ' ≤ c && c ≠ '\x7f'

/-- How far into an escape sequence one is. -/
inductive EscapeState
  /-- Not in one. -/
  | outside
  /-- After the character that opens it. -/
  | opened
  /-- In a short sequence, of which the last character is still to come. -/
  | short
  /-- In the parameters of a sequence that opens with a bracket. -/
  | parameters
  /-- In the head of a string for the device, of which the parameters may come. -/
  | device
  /-- In the parameters of that head. -/
  | deviceParameters
  /-- Behind them, before the last character of that head. -/
  | deviceShort
  /-- In a string that a terminator ends. -/
  | string
  /-- In a command for the system, which a bell ends. -/
  | command
  deriving DecidableEq, Repr

namespace EscapeState

/-- Is one of the bytes of the character the terminator of a string? -/
def holdsTerminator (c : Char) : Bool :=
  (String.utf8EncodeChar c).contains 0x9c

/-- How far one is after a character that is not shown. An escape opens a sequence anywhere, and two
control characters cancel it anywhere. -/
def next (s : EscapeState) (c : Char) : EscapeState :=
  if c = '\x1b' then opened
  else if c = '\x18' || c = '\x1a' then outside
  else
    match s with
    | outside => outside
    | opened =>
      if c < ' ' || '~' < c then opened
      else if c < '0' then short
      else if c = '[' then parameters
      else if c = ']' then command
      else if c = 'P' then device
      else if c = 'X' || c = '^' || c = '_' then string
      else outside
    | short => if '0' ≤ c && c ≤ '~' then outside else short
    | parameters => if '@' ≤ c && c ≤ '~' then outside else parameters
    | device =>
      if c < ' ' || '~' < c then device
      else if c < '0' then deviceShort
      else if c < '@' then deviceParameters
      else string
    | deviceParameters =>
      if c < ' ' || '~' < c then deviceParameters
      else if c < '0' then deviceShort
      else if c < '<' then deviceParameters
      else string
    | deviceShort => if '0' ≤ c && c ≤ '~' then string else deviceShort
    | string => if holdsTerminator c then outside else string
    | command => if c = '\x07' then outside else command

/-- Is a visible character shown there? Breaks are shown even inside of a sequence, but not in strings and
commands. -/
def shows : EscapeState → Char → Bool
  | outside, _ => true
  | opened, c | short, c | parameters, c => isBreak c
  | _, _ => false

end EscapeState

/-- The visible characters from some state on. Once one is shown (`running`), so are those after it; a
sequence that a break has interrupted goes on with the next character that is not visible, unless one
beyond ASCII was shown in between. -/
def visibleFrom : Bool → EscapeState → List Char → List Char
  | _, _, [] => []
  | running, s, c :: cs =>
    if isVisible c && (running || s.shows c) then
      c :: visibleFrom true (if c ≤ '\x7f' then s else .outside) cs
    else visibleFrom false (s.next c) cs

/-- The visible characters of a text. -/
def visible (text : List Char) : List Char :=
  visibleFrom false .outside text

end Memoryless.Text

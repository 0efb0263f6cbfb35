import Memoryless.Command.Arguments
import Memoryless.Command.Log
import Memoryless.Text.Alphanumeric
import Memoryless.Text.Blank
import Memoryless.Text.Pieces

/-!
# What is shown of the log

A filter is a list of directives with commas between them. A directive is a level for everything, or it
is about the targets that begin in a certain way, and it may set a condition in brackets: `info`,
`name=debug`, `name[{field}]=debug`. The most specific directive that fits an event decides. The
environment may set a filter. One that cannot be read counts as none, and then the default depends
on how talkative the program shall be.
-/

namespace Memoryless.Command

/-! ## Levels in a filter -/

namespace LogLevel

/-- Reads a natural number in decimal. There may be zeros and a plus in front. -/
def number? (text : List Char) : Option Nat :=
  let digits := if text.head? = some '+' then text.tail else text
  if digits.isEmpty || !digits.all Char.isDigit then none
  else some (digits.foldl (fun n c => 10 * n + (c.toNat - '0'.toNat)) 0)

/-- The level that a text stands for: its rank, or its name in any case. -/
def ofText? (text : List Char) : Option LogLevel :=
  match number? text with
  | some n => all.find? fun level => level.rank = n
  | none => all.find? fun level => level.name.toList = text.map Char.toUpper

end LogLevel

/-! ## Directives -/

/-- What a directive asks of an event besides its target. -/
inductive LogCondition
  /-- Nothing. -/
  | always
  /-- It has a field of that name. -/
  | field (name : List Char)
  /-- It lies in a span. No event of this program does. -/
  | span
  deriving DecidableEq, Repr

namespace LogCondition

/-- Does an event meet the condition? -/
def holds : LogCondition → LogEvent → Bool
  | always, _ => true
  | field name, e => e.hasField name
  | span, _ => false

/-- Is the first condition at most as specific as the second? Of two fields, the later one in the
alphabet counts as more specific. -/
def atMost : LogCondition → LogCondition → Bool
  | field name, field other => !decide (other < name)
  | field _, _ => false
  | _, _ => true

/-- Reads a condition from behind its opening bracket, and gives what follows the closing one. The name
of a span may come first, and the name of a field may follow in braces; a field with a value is one
of a span. -/
def ofText? (text : List Char) : Option (LogCondition × List Char) :=
  let span := text.takeWhile fun c => c ≠ ']' && c ≠ '{'
  match text.drop span.length with
  | ']' :: rest => some (.span, rest)
  | '{' :: rest =>
    let name := rest.takeWhile (· ≠ '}')
    match rest.drop name.length with
    | '}' :: ']' :: rest =>
      if name.isEmpty then none
      else if span.isEmpty && !name.contains '=' then some (.field name, rest)
      else some (.span, rest)
    | _ => none
  | _ => none

end LogCondition

/-- Shows events of targets that begin with `target`, if they meet a condition, up to a level. -/
structure LogDirective where
  target : List Char
  condition : LogCondition
  level : LogLevel
  deriving DecidableEq, Repr

namespace LogDirective

/-- May a directive begin with the character? -/
def isOpening (c : Char) : Bool :=
  c = '[' || c = '_' || c = ':' || c = '-' || Text.isAlphanumeric c

/-- Reads the level at the end of a directive. Without one, all levels are shown. -/
def levelOfText? (blanks : List Char) : List Char → Option LogLevel
  | '=' :: level =>
    if blanks.isEmpty && level.isEmpty then some .trace else LogLevel.ofText? (blanks ++ level)
  | rest => if rest.all Text.isBlank then some .trace else none

/-- Reads a directive: a level, or a target, a condition or both, which may be followed by a level. Blanks
in front belong to the target and to the level alike, so they make a directive that fits nothing, or
one that cannot be read. -/
def ofText? (text : List Char) : Option LogDirective :=
  let blanks := text.takeWhile Text.isBlank
  let body := text.drop blanks.length
  if !body.head?.any isOpening then none
  else
    let target := body.takeWhile fun c => c ≠ '=' && c ≠ '['
    match body.drop target.length with
    | [] =>
      match LogLevel.ofText? text with
      | some level => some ⟨[], .always, level⟩
      | none => some ⟨text, .always, .trace⟩
    | '[' :: rest => do
      let (condition, rest) ← LogCondition.ofText? rest
      return ⟨blanks ++ target, condition, ← levelOfText? blanks rest⟩
    | rest => (levelOfText? blanks rest).map fun level => ⟨blanks ++ target, .always, level⟩

/-- Is the directive about the event? -/
def fits (d : LogDirective) (e : LogEvent) : Bool :=
  d.target.isPrefixOf LogEvent.target && d.condition.holds e

/-- Is the first directive at most as specific as the second? -/
def atMost (d next : LogDirective) : Bool :=
  d.target.length < next.target.length ||
    d.target.length = next.target.length && d.condition.atMost next.condition

/-- Of two directives, the one that is more specific, or else the later one. -/
def moreSpecific (current : Option LogDirective) (next : LogDirective) : Option LogDirective :=
  match current with
  | none => some next
  | some d => if d.atMost next then some next else some d

end LogDirective

/-! ## Filters -/

/-- Which events are shown. -/
abbrev LogFilter := List LogDirective

namespace LogFilter

/-- Reads a filter. Between two commas there may be nothing. Without directives, only errors are shown. -/
def ofText? (text : String) : Option LogFilter := do
  let pieces := (Text.pieces ',' text.toList).filter fun piece => !piece.isEmpty
  let directives ← pieces.mapM LogDirective.ofText?
  return if directives.isEmpty then [⟨[], .always, .error⟩] else directives

/-- The filter if none is set: of other targets only warnings are shown. -/
def byDefault (verbose : Bool) : LogFilter :=
  [⟨LogEvent.target, .always, if verbose then .debug else .info⟩, ⟨[], .always, .warn⟩]

/-- The filter of a run. The first variable that is set counts, even if it cannot be read. -/
def ofEnvironment (env : Environment) (verbose : Bool) : LogFilter :=
  ((env.log <|> env.commonLog).bind ofText?).getD (byDefault verbose)

/-- Up to which level an event may be shown. -/
def level (filter : LogFilter) (e : LogEvent) : LogLevel :=
  let fitting := filter.filter fun d => d.fits e
  ((fitting.foldl LogDirective.moreSpecific none).map LogDirective.level).getD .off

/-- The events that are shown. -/
def shown (filter : LogFilter) (events : List LogEvent) : List LogEvent :=
  events.filter fun e => e.level.rank ≤ (filter.level e).rank

end LogFilter

end Memoryless.Command

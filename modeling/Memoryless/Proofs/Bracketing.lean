import Memoryless.Proofs.MemoryGate

/-!
# Bracketing of blocks

`Opcode.Bracketed` is what the format asks of the instructions in front of the last one of a function:
each block is closed by an `end` of its own, or by a `delegate` if it is a `try`. A body is `Ended` if
they are, and if the last one is the `end` of the function, in its last byte.

The walk counts blocks and does not keep of which kind they are, so a `delegate` may close any block,
and also the function. `FunctionBody.Clean.ended_iff` says that this is the only way in which a clean
body falls short: it is ended if every `delegate` in it stands where a `try` is the innermost open
block.
-/

namespace Memoryless

namespace Opcode

/-- The instruction that closes a block or the function. -/
def blockEnd : Opcode := single 0x0b

/-- The instruction that opens a block with handlers of its own. -/
def tryBlock : Opcode := single 0x06

/-- The instruction that closes such a block and leaves exceptions to an outer one. -/
def delegate : Opcode := single 0x18

/-- A block may be closed in this way. -/
def Closes (opener closer : Opcode) : Prop :=
  closer = blockEnd ∨ closer = delegate ∧ opener = tryBlock

/-- Every block is closed, in a way that it may be closed in. -/
inductive Bracketed : List Opcode → Prop
  | nil : Bracketed []
  | plain {op : Opcode} {ops : List Opcode} :
    op.nesting = .level → Bracketed ops → Bracketed (op :: ops)
  | block {opener closer : Opcode} {inner after : List Opcode} :
    opener.nesting = .opens → Bracketed inner → Closes opener closer → Bracketed after →
    Bracketed (opener :: (inner ++ closer :: after))

/-- The open blocks after an instruction, the innermost first. -/
def enter (blocks : List Opcode) (op : Opcode) : List Opcode :=
  match op.nesting with
  | .opens => op :: blocks
  | .level => blocks
  | .closes => blocks.tail

/-- The blocks that are open after some instructions, the innermost first. -/
def openBlocks (ops : List Opcode) : List Opcode :=
  ops.foldl enter []

theorem enter_opens {blocks : List Opcode} {op : Opcode} (opens : op.nesting = .opens) :
    enter blocks op = op :: blocks := by
  rw [enter, opens]

theorem enter_level {blocks : List Opcode} {op : Opcode} (level : op.nesting = .level) :
    enter blocks op = blocks := by
  rw [enter, level]

theorem enter_closes {blocks : List Opcode} {op : Opcode} (closes : op.nesting = .closes) :
    enter blocks op = blocks.tail := by
  rw [enter, closes]

theorem nesting_closes_iff {op : Opcode} : op.nesting = .closes ↔ op = blockEnd ∨ op = delegate := by
  obtain ⟨byte, sub⟩ := op
  refine ⟨fun closes => ?_, fun either => ?_⟩
  · unfold nesting at closes
    cases sub with
    | some => cases closes
    | none =>
        dsimp only at closes
        split at closes
        · cases closes
        · split at closes
          · rename_i member
            simpa [blockEnd, delegate, single] using member
          · cases closes
  · rcases either with same | same
    · rw [same]
      decide
    · rw [same]
      decide

theorem Closes.nesting {opener closer : Opcode} (closes : Closes opener closer) :
    closer.nesting = .closes := by
  rcases closes with rfl | ⟨rfl, -⟩
  · exact nesting_closes_iff.mpr (Or.inl rfl)
  · exact nesting_closes_iff.mpr (Or.inr rfl)

theorem length_enter {blocks : List Opcode} {op : Opcode} (stays : 0 ≤ blocks.length + op.change) :
    ((enter blocks op).length : Int) = blocks.length + op.change := by
  unfold change at stays ⊢
  cases kind : op.nesting with
  | opens =>
      rw [enter_opens kind]
      rfl
  | level =>
      rw [enter_level kind]
      rfl
  | closes =>
      rw [kind] at stays
      rw [enter_closes kind, List.length_tail]
      dsimp only at stays ⊢
      omega

/-- The number of open blocks is the depth for one more instruction. -/
theorem StaysOpen.enter {blocks ops : List Opcode} {op : Opcode}
    (stays : StaysOpen blocks.length (op :: ops)) :
    ((enter blocks op).length : Int) = blocks.length + op.change ∧
      StaysOpen (enter blocks op).length ops := by
  obtain ⟨_, further⟩ := staysOpen_cons_iff.mp stays
  have counted := length_enter further.start
  exact ⟨counted, counted ▸ further⟩

theorem length_foldl_enter {blocks ops : List Opcode} (stays : StaysOpen blocks.length ops) :
    ((ops.foldl enter blocks).length : Int) = blocks.length + level ops := by
  induction ops generalizing blocks with
  | nil => rw [level_nil, Int.add_zero, List.foldl_nil]
  | cons op ops ih =>
      obtain ⟨counted, further⟩ := stays.enter
      rw [List.foldl_cons, ih further, counted, level_cons, Int.add_assoc]

/-! ## Delegations -/

/-- With these blocks open at first, every `delegate` stands where a `try` is the innermost one. -/
def DelegatesTry (blocks ops : List Opcode) : Prop :=
  ∀ front back, ops = front ++ delegate :: back → (front.foldl enter blocks).head? = some tryBlock

theorem delegatesTry_nil {blocks : List Opcode} : DelegatesTry blocks [] :=
  fun front back split => by simp at split

theorem delegatesTry_cons_iff {blocks ops : List Opcode} {op : Opcode} :
    DelegatesTry blocks (op :: ops) ↔
      (op = delegate → blocks.head? = some tryBlock) ∧ DelegatesTry (enter blocks op) ops := by
  refine ⟨fun all => ?_, fun parts => ?_⟩
  · refine ⟨fun same => all [] ops (by rw [same, List.nil_append]), fun front back split => ?_⟩
    exact all (op :: front) back (by rw [split, List.cons_append])
  · intro front back split
    cases front with
    | nil =>
        cases split
        exact parts.1 rfl
    | cons first front =>
        cases split
        exact parts.2 front back rfl

theorem delegatesTry_append_iff {blocks first second : List Opcode} :
    DelegatesTry blocks (first ++ second) ↔
      DelegatesTry blocks first ∧ DelegatesTry (first.foldl enter blocks) second := by
  induction first generalizing blocks with
  | nil => rw [List.nil_append, List.foldl_nil, and_iff_right delegatesTry_nil]
  | cons op first ih =>
      rw [List.cons_append, delegatesTry_cons_iff, delegatesTry_cons_iff, ih, List.foldl_cons, and_assoc]

theorem Bracketed.foldl_enter {ops : List Opcode} (bracketed : Bracketed ops) (blocks : List Opcode) :
    ops.foldl enter blocks = blocks := by
  induction bracketed generalizing blocks with
  | nil => rfl
  | plain level _ ih => rw [List.foldl_cons, enter_level level, ih]
  | block opens _ closes _ inner after =>
      rw [List.foldl_cons, enter_opens opens, List.foldl_append, inner, List.foldl_cons,
        enter_closes closes.nesting, List.tail_cons, after]

theorem Bracketed.delegatesTry {ops : List Opcode} (bracketed : Bracketed ops) (blocks : List Opcode) :
    DelegatesTry blocks ops := by
  induction bracketed generalizing blocks with
  | nil => exact delegatesTry_nil
  | plain level _ ih =>
      refine delegatesTry_cons_iff.mpr ⟨fun same => ?_, ?_⟩
      · rw [same] at level
        exact absurd level (by decide)
      · rw [enter_level level]
        exact ih blocks
  | @block opener closer inner after opens bracketed closes _ insideBlock afterBlock =>
      refine delegatesTry_cons_iff.mpr ⟨fun same => ?_, ?_⟩
      · rw [same] at opens
        exact absurd opens (by decide)
      · -- What is inside leaves the open blocks as they were, so the closer meets its opener.
        rw [enter_opens opens, delegatesTry_append_iff, bracketed.foldl_enter, delegatesTry_cons_iff,
          enter_closes closes.nesting, List.tail_cons]
        refine ⟨insideBlock _, fun same => ?_, afterBlock blocks⟩
        rcases closes with ended | ⟨_, isTry⟩
        · exact absurd (ended.symm.trans same) (by decide)
        · rw [isTry, List.head?_cons]

/-! ## Instructions that close the open blocks -/

/-- The instructions close the open blocks one after the other, and are bracketed in between. -/
inductive Unwinds : List Opcode → List Opcode → Prop
  | nil {ops : List Opcode} : Bracketed ops → Unwinds [] ops
  | cons {opener closer : Opcode} {blocks inner after : List Opcode} :
    Bracketed inner → Closes opener closer → Unwinds blocks after →
    Unwinds (opener :: blocks) (inner ++ closer :: after)

theorem Unwinds.plain {blocks ops : List Opcode} {op : Opcode} (level : op.nesting = .level)
    (unwinds : Unwinds blocks ops) : Unwinds blocks (op :: ops) := by
  cases unwinds with
  | nil bracketed => exact .nil (.plain level bracketed)
  | cons bracketed closes unwinds => exact .cons (.plain level bracketed) closes unwinds

theorem Unwinds.block {blocks ops : List Opcode} {op : Opcode} (opens : op.nesting = .opens)
    (unwinds : Unwinds (op :: blocks) ops) : Unwinds blocks (op :: ops) := by
  cases unwinds with
  | @cons _ closer _ inner _ within closes unwinds =>
      cases unwinds with
      | nil after => exact .nil (.block opens within closes after)
      | @cons _ outer _ between after beyond further unwinds =>
          have first := Bracketed.block opens within closes beyond
          have same : op :: (inner ++ closer :: (between ++ outer :: after)) =
              op :: (inner ++ closer :: between) ++ outer :: after := by
            simp only [List.cons_append, List.append_assoc]
          rw [same]
          exact .cons first further unwinds

/-- Instructions that close what is open, and no more, close it in the ways that are allowed if every
`delegate` among them meets a `try`. -/
theorem DelegatesTry.unwinds {blocks ops : List Opcode} (delegates : DelegatesTry blocks ops)
    (stays : StaysOpen blocks.length ops) (settled : blocks.length + level ops = 0) :
    Unwinds blocks ops := by
  induction ops generalizing blocks with
  | nil =>
      rw [level_nil, Int.add_zero] at settled
      rw [List.length_eq_zero_iff.mp (Int.ofNat_inj.mp settled)]
      exact .nil .nil
  | cons op ops ih =>
      obtain ⟨here, later⟩ := delegatesTry_cons_iff.mp delegates
      obtain ⟨counted, further⟩ := stays.enter
      rw [level_cons, ← Int.add_assoc, ← counted] at settled
      have rest := ih later further settled
      cases kind : op.nesting with
      | opens =>
          rw [enter_opens kind] at rest
          exact rest.block kind
      | level =>
          rw [enter_level kind] at rest
          exact rest.plain kind
      | closes =>
          rw [change_eq_neg_one_iff.mpr kind] at counted
          cases blocks with
          | nil => exact absurd counted (by rw [List.length_nil]; omega)
          | cons opener blocks =>
              rw [enter_closes kind, List.tail_cons] at rest
              have closes : Closes opener op := by
                rcases nesting_closes_iff.mp kind with ended | delegated
                · exact Or.inl ended
                · exact Or.inr ⟨delegated, Option.some.inj (here delegated)⟩
              exact @Unwinds.cons opener op blocks [] ops .nil closes rest

/-- No block is open once all have been closed. -/
theorem openBlocks_eq_nil {ops : List Opcode} (stays : StaysOpen 0 ops) (settled : level ops = 0) :
    openBlocks ops = [] := by
  have counted : ((openBlocks ops).length : Int) = 0 + level ops :=
    @length_foldl_enter [] ops stays
  rw [settled, Int.add_zero] at counted
  exact List.length_eq_zero_iff.mp (Int.ofNat_inj.mp counted)

/-- Of instructions that leave the function open and no block, those that are bracketed. -/
theorem bracketed_iff {ops : List Opcode} (stays : StaysOpen 0 ops) (settled : level ops = 0) :
    Bracketed ops ↔ DelegatesTry [] ops := by
  refine ⟨fun bracketed => bracketed.delegatesTry [], fun delegates => ?_⟩
  have balanced : (0 : Int) + level ops = 0 := by rw [settled, Int.add_zero]
  cases @DelegatesTry.unwinds [] ops delegates stays balanced with
  | nil bracketed => exact bracketed

end Opcode

namespace FunctionBody

open Instruction Opcode

/-- The `end` of the function is the last byte of the body, and the instructions before it are
bracketed. -/
def Ended (body : FunctionBody) : Prop :=
  ∃ ops, body.Reaches ops [0x0b] ∧ Bracketed ops

/-- Every `delegate` among the instructions of the body stands where a `try` is the innermost open
block. -/
def DelegatesTry (body : FunctionBody) : Prop :=
  ∀ front back, body.Reaches (front ++ delegate :: back) [] →
    (openBlocks front).head? = some tryBlock

variable {body : FunctionBody}

theorem next_blockEnd : next [0x0b] = .ok (blockEnd, []) := by
  cbv

theorem eq_of_next_blockEnd {place : Bytes} (read : next place = .ok (blockEnd, [])) :
    place = [0x0b] := by
  obtain ⟨afterOpcode, kinds, opcodeRead, assigned, skipped⟩ := next_ok read
  have bare : blockEnd.immediates? = some [] := by cbv
  rw [bare] at assigned
  cases assigned
  cases skipped
  obtain ⟨b, rest, byteRead, later⟩ := Reader.bind_ok opcodeRead
  cases place with
  | nil => cases byteRead
  | cons first place =>
      cases byteRead
      cases paged : OpcodePage.ofLead? b with
      | none =>
          rw [paged] at later
          cases later
          rfl
      | some page =>
          rw [paged] at later
          obtain ⟨sub, _, _, made⟩ := Reader.bind_ok later
          cases made

theorem Reaches.unique {first second : List Opcode} {place : Bytes} (left : body.Reaches first place)
    (right : body.Reaches second place) : first = second := by
  rcases left with ⟨start, localsRead, run⟩
  rcases right with ⟨_, again, other⟩
  rw [localsRead] at again
  cases again
  exact run.unique other

theorem Ended.delegatesTry (ended : body.Ended) : body.DelegatesTry := by
  rcases ended with ⟨ops, ⟨start, localsRead, run⟩, bracketed⟩
  have whole : body.Reaches (ops ++ [blockEnd]) [] :=
    ⟨start, localsRead, run.append (.cons next_blockEnd .nil)⟩
  intro front back reaches
  have all : Opcode.DelegatesTry [] (ops ++ [blockEnd]) := by
    refine delegatesTry_append_iff.mpr ⟨bracketed.delegatesTry [], ?_⟩
    exact delegatesTry_cons_iff.mpr ⟨fun same => absurd same (by decide), delegatesTry_nil⟩
  exact all front back (whole.unique reaches)

/-- A clean body falls short only by a `delegate` that does not close a `try`. -/
theorem Clean.ended_iff (clean : body.Clean) : body.Ended ↔ body.DelegatesTry := by
  refine ⟨Ended.delegatesTry, fun delegates => ?_⟩
  rcases clean with ⟨ops, last, reaches, -, stays, total⟩
  have all : Opcode.DelegatesTry [] (ops ++ [last]) :=
    fun front back split => delegates front back (split ▸ reaches)
  obtain ⟨earlier, final⟩ := delegatesTry_append_iff.mp all
  have left := stays.nonneg
  have lowest := change_ge last
  rw [level_append, level_cons, level_nil] at total
  have settled : level ops = 0 := by omega
  have closes : last.nesting = .closes := change_eq_neg_one_iff.mp (by omega)
  have isEnd : last = blockEnd := by
    rcases nesting_closes_iff.mp closes with ended | delegated
    · exact ended
    · have top : (openBlocks ops).head? = some tryBlock := (delegatesTry_cons_iff.mp final).1 delegated
      rw [openBlocks_eq_nil stays settled] at top
      cases top
  rcases reaches with ⟨start, localsRead, run⟩
  obtain ⟨place, before, closing⟩ := run.split
  rw [isEnd] at closing
  cases closing with
  | cons read done =>
      cases done with
      | nil =>
          rw [eq_of_next_blockEnd read] at before
          exact ⟨ops, ⟨start, localsRead, before⟩, (bracketed_iff stays settled).mpr earlier⟩

end FunctionBody

namespace Module

open FunctionBody

/-- The bodies of a module in which no use of memory is found are ended exactly if every `delegate` in
them stands where a `try` is the innermost open block. -/
theorem clean_ended_iff {m : Module} {code : Section} (clean : m.scan = .ok none)
    (found : m.section? .code = some code) :
    ∃ bodies, Framed code.payload bodies ∧ ∀ body ∈ bodies, body.Ended ↔ body.DelegatesTry := by
  have framed : ∃ bodies, Framed code.payload bodies := by
    apply Classical.byContradiction
    intro unframed
    obtain ⟨offset, reason, failed⟩ := (scan_malformedCode_iff found).mpr unframed
    rw [clean] at failed
    cases failed
  rcases framed with ⟨bodies, framed⟩
  exact ⟨bodies, framed, fun body member => ((scan_clean_iff found framed).mp clean body member).ended_iff⟩

/-- A function with a `try` that delegates. -/
theorem clean_ended_iff_try :
    scan ⟨[⟨.code, [1, 6, 0, 0x06, 0x40, 0x18, 0, 0x0b]⟩]⟩ = .ok none ∧
      ∃ bodies, Framed [1, 6, 0, 0x06, 0x40, 0x18, 0, 0x0b] bodies ∧
        ∀ body ∈ bodies, body.Ended ↔ body.DelegatesTry :=
  ⟨by cbv, @clean_ended_iff ⟨[⟨.code, [1, 6, 0, 0x06, 0x40, 0x18, 0, 0x0b]⟩]⟩
    ⟨.code, [1, 6, 0, 0x06, 0x40, 0x18, 0, 0x0b]⟩ (by cbv) (by cbv)⟩

/-- A `delegate` outside of all blocks closes the function, and the body counts as clean. -/
theorem clean_not_ended :
    scan ⟨[⟨.code, [1, 3, 0, 0x18, 0]⟩]⟩ = .ok none ∧
      ∃ bodies, Framed [1, 3, 0, 0x18, 0] bodies ∧ ∃ body ∈ bodies, ¬body.Ended := by
  have cut : parse [1, 3, 0, 0x18, 0] = .ok [⟨0, [0, 0x18, 0], []⟩] := by cbv
  refine ⟨by cbv, _, parse_ok_iff.mp cut, ⟨0, [0, 0x18, 0], []⟩, List.mem_cons_self, ?_⟩
  intro ended
  rcases ended with ⟨ops, reaches, -⟩
  exact absurd reaches.suffix (by decide)

end Module

end Memoryless

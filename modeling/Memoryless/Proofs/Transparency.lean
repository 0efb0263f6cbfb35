import Memoryless.Proofs.Restripping
import Memoryless.Proofs.SizeReduction

/-!
# Custom sections make no difference

A file is cut at a `Module.Boundary` between two of its sections, and a custom section is put there, its
size spelled in any way. What is found in the code, which exports go with the memory, and every reason
to refuse the file are decided by the sections of other kinds (`Module.removedExports_eq`), so none of
it changes.

Where the custom section comes out is settled section by section: what a removal leaves of some sections
does not depend on the others (`Removal.Removes.split`, `Removal.Removes.unique`). `strip_with_custom`
puts this together.
-/

namespace Memoryless

/-! ## Cutting a file -/

namespace Section

/-- Where a frame ends does not depend on what follows. -/
theorem Frames.unique {x : Section} {front other rest left : Bytes} (one : x.Frames front)
    (two : x.Frames other) (same : front ++ rest = other ++ left) : front = other ∧ rest = left := by
  rcases one with ⟨size, here, rfl⟩
  rcases two with ⟨again, there, rfl⟩
  have sizes : size ++ (x.payload ++ rest) = again ++ (x.payload ++ left) := by simpa using same
  obtain ⟨rfl, payloads⟩ := Leb128.u32_reads.unique here.toUInt32 there.toUInt32 sizes
  exact ⟨rfl, List.append_cancel_left payloads⟩

theorem row_unique {sections : List Section} {front other rest left : Bytes}
    (one : Form.Row Frames front sections) (two : Form.Row Frames other sections)
    (same : front ++ rest = other ++ left) : front = other := by
  induction one generalizing other with
  | nil =>
      cases two
      rfl
  | cons frame _ ih =>
      cases two with
      | cons again row =>
          rw [List.append_assoc, List.append_assoc] at same
          obtain ⟨rfl, later⟩ := frame.unique again same
          rw [ih row later]

/-- A frame that no other is shorter than. -/
def Shortest (s : Bytes) (x : Section) : Prop :=
  x.Frames s ∧ ∀ other, x.Frames other → s.length ≤ other.length

theorem Shortest.write {x : Section} {s : Bytes} (framed : x.Frames s) : Shortest x.write x := by
  obtain ⟨size, here, -⟩ := framed
  exact ⟨⟨_, .ofNat (by decide) here.fits, rfl⟩, fun _ frame => frame.length_write_le⟩

end Section

namespace Module

/-- The file is `m`, and is cut in front of its section number `k`, or at the end if it has only `k`. -/
structure Boundary (m : Module) (k : Nat) (front back : Bytes) : Prop where
  whole : decode (front ++ back) = .ok m
  within : k ≤ m.sections.length
  before : decode front = .ok ⟨m.sections.take k⟩

variable {m n : Module} {k : Nat} {file front back : Bytes} {before after : List Section} {x : Section}

theorem Boundary.unique {other left : Bytes} (one : m.Boundary k front back)
    (two : m.Boundary k other left) (same : front ++ back = other ++ left) : front = other := by
  obtain ⟨frames, rfl, row⟩ := (Spells.of_decode one.before).framed
  obtain ⟨others, rfl, again⟩ := (Spells.of_decode two.before).framed
  rw [List.append_assoc, List.append_assoc] at same
  rw [Section.row_unique row again (List.append_cancel_left same)]

theorem Spells.cut (spelled : Spells file ⟨before ++ after⟩) :
    ∃ front back, file = front ++ back ∧ Spells front ⟨before⟩ ∧ Form.Row Section.Frames back after := by
  obtain ⟨frames, rfl, row⟩ := spelled.framed
  obtain ⟨early, late, rfl, left, right⟩ := row.split
  have ordered := spelled.ordered
  rw [ranks_append] at ordered
  exact ⟨header ++ early, late, (List.append_assoc ..).symm,
    ⟨⟨early, rfl, left⟩, (List.pairwise_append.mp ordered).1,
      (List.forall_mem_append.mp spelled.opened).1⟩, right⟩

theorem Spells.boundary (spelled : Spells (front ++ back) ⟨before ++ after⟩) (left : Spells front ⟨before⟩) :
    Boundary ⟨before ++ after⟩ before.length front back where
  whole := spelled.decode
  within := by
    rw [List.length_append]
    exact Nat.le_add_right ..
  before := by
    rw [List.take_left]
    exact left.decode

theorem ranks_insert (isCustom : x.id = .custom) :
    ranks (before ++ x :: after) = ranks (before ++ after) := by
  rw [ranks_append, ranks_append, ranks_cons_none (by rw [isCustom]; rfl)]

/-- A custom section may be put in at any boundary. -/
theorem Spells.insert {frame : Bytes} (spelled : Spells (front ++ back) ⟨before ++ after⟩)
    (left : Spells front ⟨before⟩) (right : Form.Row Section.Frames back after) (isCustom : x.id = .custom)
    (opened : x.Opens) (framed : x.Frames frame) :
    Spells (front ++ (frame ++ back)) ⟨before ++ x :: after⟩ := by
  obtain ⟨early, rfl, row⟩ := left.framed
  obtain ⟨first, second⟩ := List.forall_mem_append.mp spelled.opened
  refine ⟨⟨early ++ (frame ++ back), List.append_assoc .., row.append (.cons framed right)⟩, ?_, ?_⟩
  · rw [ranks_insert isCustom]
    exact spelled.ordered
  · exact List.forall_mem_append.mpr ⟨first, List.forall_mem_cons.mpr ⟨opened, second⟩⟩

/-! ## What the outcome depends on -/

theorem section?_insert (isCustom : x.id = .custom) {id : SectionId} (known : id ≠ .custom) :
    Module.section? ⟨before ++ x :: after⟩ id = Module.section? ⟨before ++ after⟩ id := by
  rw [section?, section?, List.find?_append, List.find?_append,
    List.find?_cons_of_neg (by simpa [isCustom] using known.symm)]

theorem requireClean_congr {parallel : Bool} (same : m.section? .code = n.section? .code) :
    m.requireClean parallel = n.requireClean parallel := by
  simp only [requireClean, scanParallel_eq_scan, scan_eq_of_section?_eq same]

theorem find?_eraseP {α : Type} {p q : α → Bool} (apart : ∀ a, p a = true → ¬q a = true) (all : List α) :
    (all.eraseP p).find? q = all.find? q := by
  induction all with
  | nil => rfl
  | cons a all ih =>
      by_cases here : p a = true
      · rw [List.eraseP_cons_of_pos here, List.find?_cons_of_neg (apart a here)]
      · rw [List.eraseP_cons_of_neg here, List.find?_cons, List.find?_cons, ih]

/-- The exports that go are those of the first export section. -/
def firstRemoved (exports : Option Section) : Except RemovalError (List Export) :=
  match exports with
  | none => .ok []
  | some y => (Removal.prune y).map Prod.snd

theorem pruneFirst_map_snd (sections : List Section) :
    (Removal.pruneFirst sections).map Prod.snd =
      firstRemoved (sections.find? fun y => y.id = .exports) := by
  unfold Removal.pruneFirst
  rcases span_exports sections with ⟨without, parts⟩ | ⟨before, x, after, split, early, isExports, parts⟩
  · have absent : (sections.find? fun y => y.id = .exports) = none :=
      List.find?_eq_none.mpr fun y member => by simpa using without y member
    rw [parts, absent]
    rfl
  · have first : (sections.find? fun y => y.id = .exports) = some x :=
      List.find?_eq_some_iff_append.mpr
        ⟨decide_eq_true isExports, before, after, split, fun y member => by simpa using early y member⟩
    rw [parts, first, firstRemoved]
    dsimp only
    cases Removal.prune x <;> rfl

/-- Whether the memory can be removed, and which exports go with it, is decided by the first section of each
of three kinds. -/
theorem removedExports_eq (m : Module) :
    m.removeMemory.map Removal.removedExports =
      match m.section? .memories with
      | none => .error .noMemory
      | some _ =>
        (Removal.dataSegments m).bind fun count =>
          if count = 0 then firstRemoved (m.section? .exports) else .error (.dataSegments count) := by
  have apart : ∀ y : Section, decide (y.id = .memories) = true → ¬decide (y.id = .exports) = true := by
    simp +contextual
  have pruned := pruneFirst_map_snd (m.sections.eraseP fun y => y.id = .memories)
  rw [find?_eraseP apart] at pruned
  unfold removeMemory
  cases m.section? .memories with
  | none => rfl
  | some memory =>
      cases Removal.dataSegments m with
      | error fault => rfl
      | ok count =>
          by_cases zero : count = 0
          · simp only [Except.bind, if_pos zero, section?, ← pruned]
            cases Removal.pruneFirst _ <;> simp [zero, bind, Except.bind, pure, Except.pure, Except.map]
          · simp only [Except.bind, if_neg zero]
            simp [zero, bind, Except.bind]
            rfl

theorem removedExports_insert (isCustom : x.id = .custom) :
    (removeMemory ⟨before ++ x :: after⟩).map Removal.removedExports =
      (removeMemory ⟨before ++ after⟩).map Removal.removedExports := by
  have same : ∀ id, id ≠ SectionId.custom →
      Module.section? ⟨before ++ x :: after⟩ id = Module.section? ⟨before ++ after⟩ id :=
    fun _ => section?_insert isCustom
  rw [removedExports_eq, removedExports_eq, Removal.dataSegments, Removal.dataSegments,
    same .memories (by decide), same .data (by decide), same .exports (by decide)]

end Module

namespace Removal

variable {entries : List Export} {sections remaining others before after : List Section} {x : Section}

/-! ## Section by section -/

/-- Every entry is removed, and there are some. -/
def AllRemoved (entries : List Export) : Prop :=
  entries ≠ [] ∧ ∀ e ∈ entries, e.kind = .memory

theorem Removes.unique (one : Removes entries sections remaining) (two : Removes entries sections others) :
    remaining = others := by
  induction one generalizing others with
  | nil =>
      cases two
      rfl
  | memory isMemory _ ih =>
      cases two with
      | memory _ removes => exact ih removes
      | exports isExports => exact absurd (isMemory.symm.trans isExports) (by decide)
      | other notMemory => exact absurd isMemory notMemory
  | exports isExports _ pruned _ ih =>
      cases two with
      | memory isMemory => exact absurd (isMemory.symm.trans isExports) (by decide)
      | exports _ _ again removes => rw [pruned.unique again, ih removes]
      | other _ notExports => exact absurd isExports notExports
  | other notMemory notExports _ ih =>
      cases two with
      | memory isMemory => exact absurd isMemory notMemory
      | exports isExports => exact absurd isExports notExports
      | other _ _ removes => rw [ih removes]

theorem Removes.split (removes : Removes entries (before ++ after) remaining) :
    ∃ early late, remaining = early ++ late ∧ Removes entries before early ∧ Removes entries after late := by
  induction before generalizing remaining with
  | nil => exact ⟨[], remaining, rfl, .nil, removes⟩
  | cons y before ih =>
      cases removes with
      | memory isMemory removes =>
          obtain ⟨early, late, rfl, left, right⟩ := ih removes
          exact ⟨early, late, rfl, .memory isMemory left, right⟩
      | @exports _ _ _ out isExports parsed pruned removes =>
          obtain ⟨early, late, rfl, left, right⟩ := ih removes
          exact ⟨out ++ early, late, (List.append_assoc ..).symm, .exports isExports parsed pruned left, right⟩
      | other notMemory notExports removes =>
          obtain ⟨early, late, rfl, left, right⟩ := ih removes
          exact ⟨y :: early, late, rfl, .other notMemory notExports left, right⟩

/-- A custom section stays where it is among the others. -/
theorem Removes.insert_custom (isCustom : x.id = .custom)
    (one : Removes entries (before ++ after) remaining)
    (two : Removes entries (before ++ x :: after) others) :
    ∃ early late, remaining = early ++ late ∧ others = early ++ x :: late ∧
      Removes entries before early := by
  obtain ⟨early, late, rfl, left, right⟩ := one.split
  obtain ⟨first, second, rfl, again, rest⟩ := two.split
  obtain rfl := left.unique again
  cases rest with
  | memory isMemory => exact absurd (isCustom.symm.trans isMemory) (by decide)
  | exports isExports => exact absurd (isCustom.symm.trans isExports) (by decide)
  | other _ _ rest =>
      obtain rfl := right.unique rest
      exact ⟨early, late, rfl, rfl, left⟩

/-- A section goes if it is a memory section, or an export section whose entries all go. -/
def Goes (entries : List Export) (x : Section) : Prop :=
  x.id = .memories ∨ x.id = .exports ∧ AllRemoved entries

theorem Pruned.eq_nil_iff {out : List Section} (pruned : Pruned entries x out) :
    out = [] ↔ AllRemoved entries := by
  cases pruned with
  | kept none =>
      refine iff_of_false (List.cons_ne_nil _ _) fun all => ?_
      obtain ⟨e, member⟩ := List.exists_mem_of_ne_nil _ all.1
      exact none e member (all.2 e member)
  | dropped some all => exact iff_of_true rfl ⟨some, all⟩
  | rewritten _ other =>
      refine iff_of_false (List.cons_ne_nil _ _) fun all => ?_
      obtain ⟨e, member, notMemory⟩ := other
      exact notMemory (all.2 e member)

theorem goes_congr {y : Section} (same : y.id = x.id) : Goes entries y ↔ Goes entries x := by
  rw [Goes, Goes, same]

/-- The first section goes, or it stays or is replaced by one of its kind. -/
theorem Removes.first (removes : Removes entries (x :: sections) remaining) :
    ∃ rest, Removes entries sections rest ∧
      (Goes entries x ∧ remaining = rest ∨
        ¬Goes entries x ∧ ∃ y, y.id = x.id ∧ remaining = y :: rest) := by
  cases removes with
  | memory isMemory removes => exact ⟨_, removes, .inl ⟨.inl isMemory, rfl⟩⟩
  | exports isExports parsed pruned removes =>
      refine ⟨_, removes, ?_⟩
      rcases pruned.left parsed with ⟨rfl, -⟩ | ⟨y, rfl, same, -, -⟩
      · exact .inl ⟨.inr ⟨isExports, pruned.eq_nil_iff.mp rfl⟩, rfl⟩
      · refine .inr ⟨fun goes => ?_, y, same, rfl⟩
        rcases goes with isMemory | ⟨-, all⟩
        · exact absurd (isMemory.symm.trans isExports) (by decide)
        · exact List.cons_ne_nil _ _ (pruned.eq_nil_iff.mpr all)
  | other notMemory notExports removes =>
      refine ⟨_, removes, .inr ⟨fun goes => ?_, x, rfl, rfl⟩⟩
      rcases goes with isMemory | ⟨isExports, -⟩
      · exact notMemory isMemory
      · exact notExports isExports

theorem Removes.not_goes (removes : Removes entries sections remaining) :
    ∀ y ∈ remaining, ¬Goes entries y := by
  induction sections generalizing remaining with
  | nil =>
      cases removes
      exact List.forall_mem_nil _
  | cons x sections ih =>
      obtain ⟨rest, later, ⟨-, rfl⟩ | ⟨stays, y, same, rfl⟩⟩ := removes.first
      · exact ih later
      · exact List.forall_mem_cons.mpr ⟨mt (goes_congr same).mp stays, ih later⟩

theorem Removes.exists_left (removes : Removes entries sections remaining) :
    ∀ x ∈ sections, ¬Goes entries x → ∃ y ∈ remaining, y.id = x.id := by
  induction sections generalizing remaining with
  | nil => exact List.forall_mem_nil _
  | cons x sections ih =>
      obtain ⟨rest, later, ⟨goes, rfl⟩ | ⟨-, y, same, rfl⟩⟩ := removes.first
      · exact List.forall_mem_cons.mpr ⟨fun stays => absurd goes stays, ih later⟩
      · refine List.forall_mem_cons.mpr ⟨fun _ => ⟨y, List.mem_cons_self, same⟩, fun z member stays => ?_⟩
        obtain ⟨left, among, same⟩ := ih later z member stays
        exact ⟨left, List.mem_cons_of_mem y among, same⟩

/-- A section goes if no section of its kind is left. -/
theorem Removes.goes_iff (removes : Removes entries sections remaining) (member : x ∈ sections) :
    Goes entries x ↔ ∀ y ∈ remaining, y.id ≠ x.id := by
  refine ⟨fun goes y left same => removes.not_goes y left ((goes_congr same).mpr goes), fun none => ?_⟩
  by_contra stays
  obtain ⟨y, left, same⟩ := removes.exists_left x member stays
  exact none y left same

/-- What is left and what goes make up the sections. -/
theorem Removes.length_add_countP {gone : Section → Bool} (removes : Removes entries sections remaining)
    (all : ∀ x ∈ sections, gone x = true ↔ Goes entries x) :
    remaining.length + sections.countP gone = sections.length := by
  induction sections generalizing remaining with
  | nil =>
      cases removes
      rfl
  | cons x sections ih =>
      obtain ⟨here, among⟩ := List.forall_mem_cons.mp all
      obtain ⟨rest, later, ⟨goes, rfl⟩ | ⟨stays, y, -, rfl⟩⟩ := removes.first
      · have counted := ih later among
        rw [List.countP_cons_of_pos (here.mpr goes), List.length_cons]
        omega
      · have counted := ih later among
        rw [List.countP_cons_of_neg (mt here.mp stays), List.length_cons, List.length_cons]
        omega

end Removal

/-! ## Runs -/

namespace Module

/-- How many of the first `k` sections of `m` are gone in `n`: no section of their kind is left there. -/
def goneBefore (m n : Module) (k : Nat) : Nat :=
  (m.sections.take k).countP fun x => ∀ y ∈ n.sections, y.id ≠ x.id

end Module

/-- What stripping a file comes to, and what it comes to if a custom section `x` is put in front of
section number `k`, in a frame of its own. The file is refused for the same reason; or the same exports
are removed, and the shortest frame of the custom section stands in the result, at the boundary that is
left of that one. -/
inductive Transparent (m : Module) (k : Nat) (x : Section) (frame : Bytes) :
    Except StripError Stripped → Except StripError Stripped → Prop
  | refused {error : StripError} : Transparent m k x frame (.error error) (.error error)
  | stripped {n : Module} {early late short : Bytes} {removed : List Export} {size : Nat} :
    n.Boundary (k - m.goneBefore n k) early late → Section.Shortest short x →
    Transparent m k x frame (.ok ⟨early ++ late, removed, size⟩)
      (.ok ⟨early ++ (short ++ late), removed, size + frame.length⟩)

theorem strip_of_decode {parallel : Bool} {file : Bytes} {m : Module} (decoded : Module.decode file = .ok m) :
    strip parallel file = do
      m.requireClean parallel
      let removal ← m.removeMemory.mapError .removal
      return ⟨removal.remaining.encode, removal.removedExports, file.length⟩ := by
  rw [strip, decoded]
  rfl

namespace Module

open Removal

variable {m : Module} {k : Nat} {front back frame : Bytes} {before after early late : List Section}
  {x : Section} {entries others : List Export}

theorem Exports.unique (one : m.Exports entries) (two : m.Exports others) : entries = others := by
  unfold Exports at one two
  generalize (m.sections.filter fun y => y.id = .exports) = found at one two
  match found, one, two with
  | [], one, two => exact one.trans two.symm
  | [_], one, two => exact Except.ok.inj (one.symm.trans two)
  | _ :: _ :: _, one, _ => exact one.elim

theorem encode_append : encode ⟨early ++ late⟩ = encode ⟨early⟩ ++ late.flatMap Section.write := by
  rw [encode, encode, List.flatMap_append, List.append_assoc]

/-- The boundary at which the custom section comes out. -/
theorem boundary_left {file : Bytes} (spelled : Spells file ⟨before ++ after⟩)
    (removes : Removes entries (before ++ after) (early ++ late)) (front : Removes entries before early) :
    Boundary ⟨early ++ late⟩
      (before.length - goneBefore ⟨before ++ after⟩ ⟨early ++ late⟩ before.length)
      (encode ⟨early⟩) (late.flatMap Section.write) := by
  have counted :
      early.length + goneBefore ⟨before ++ after⟩ ⟨early ++ late⟩ before.length = before.length := by
    rw [goneBefore, List.take_left]
    refine front.length_add_countP fun y member => ?_
    rw [removes.goes_iff (List.mem_append_left after member), decide_eq_true_iff]
  have written : Spells (encode ⟨early ++ late⟩) ⟨early ++ late⟩ := spelled.removed removes
  obtain ⟨_, _, -, first, -⟩ := written.cut
  rw [encode_append] at written
  rw [Nat.sub_eq_of_eq_add counted.symm]
  exact written.boundary first.rewritten

/-- With the custom section in between, the memory is removed in the same way, or it is not for the same
reason. -/
theorem removeMemory_insert {file other : Bytes} (spelled : Spells file ⟨before ++ after⟩)
    (inserted : Spells other ⟨before ++ x :: after⟩) (isCustom : x.id = .custom) :
    (∃ error, removeMemory ⟨before ++ after⟩ = .error error ∧
        removeMemory ⟨before ++ x :: after⟩ = .error error) ∨
      ∃ entries early late removed, Removes entries (before ++ after) (early ++ late) ∧
        Removes entries before early ∧ removeMemory ⟨before ++ after⟩ = .ok ⟨⟨early ++ late⟩, removed⟩ ∧
        removeMemory ⟨before ++ x :: after⟩ = .ok ⟨⟨early ++ x :: late⟩, removed⟩ := by
  have sameExports : (removeMemory ⟨before ++ x :: after⟩).map Removal.removedExports =
      (removeMemory ⟨before ++ after⟩).map Removal.removedExports :=
    removedExports_insert isCustom
  match run : removeMemory ⟨before ++ after⟩, again : removeMemory ⟨before ++ x :: after⟩ with
  | .error error, .error _ =>
      rw [run, again] at sameExports
      cases sameExports
      exact .inl ⟨error, rfl, rfl⟩
  | .error _, .ok _ | .ok _, .error _ =>
      rw [run, again] at sameExports
      cases sameExports
  | .ok ⟨⟨remaining⟩, removed⟩, .ok ⟨⟨remaining'⟩, removed'⟩ =>
      rw [run, again] at sameExports
      obtain rfl : removed' = removed := Except.ok.inj sameExports
      obtain ⟨entries, removes, exported, -⟩ := removeMemory_removes spelled.ordered run
      obtain ⟨entries', removes', exported', -⟩ := removeMemory_removes inserted.ordered again
      rw [exports_insert_iff before after (by rw [isCustom]; decide)] at exported'
      obtain rfl := exported.unique exported'
      obtain ⟨early, late, rfl, rfl, first⟩ := removes.insert_custom isCustom removes'
      exact .inr ⟨entries, early, late, removed', removes, first, rfl, rfl⟩

theorem transparent_insert (spelled : Spells (front ++ back) ⟨before ++ after⟩)
    (left : Spells front ⟨before⟩) (right : Form.Row Section.Frames back after) (isCustom : x.id = .custom)
    (opened : x.Opens) (framed : x.Frames frame) (parallel : Bool) :
    Transparent ⟨before ++ after⟩ before.length x frame (strip parallel (front ++ back))
      (strip parallel (front ++ (frame ++ back))) := by
  have inserted := spelled.insert left right isCustom opened framed
  rw [strip_of_decode spelled.decode, strip_of_decode inserted.decode,
    requireClean_congr (section?_insert isCustom (by decide))]
  cases requireClean ⟨before ++ after⟩ parallel with
  | error fault => exact .refused
  | ok _ =>
      obtain ⟨error, run, again⟩ | ⟨entries, early, late, removed, removes, first, run, again⟩ :=
        removeMemory_insert spelled inserted isCustom
      · rw [run, again]
        exact .refused
      · have longer : (front ++ (frame ++ back)).length = (front ++ back).length + frame.length := by
          simp only [List.length_append]
          omega
        rw [run, again]
        simp only [Except.mapError, bind, Except.bind, pure, Except.pure]
        rw [longer, encode_append, encode_append, List.flatMap_cons]
        exact .stripped (boundary_left spelled removes first) (.write framed)

end Module

/-- Let a file be a module, and let `k` be a boundary: in front of one of its sections, or at its end.
The file is cut there in one way only, and a custom section put there, its size spelled in any way,
changes neither what the file is refused for nor which exports are removed. It comes out where it was
put in. -/
theorem strip_with_custom {file : Bytes} {m : Module} (decoded : Module.decode file = .ok m) {k : Nat}
    (within : k ≤ m.sections.length) :
    ∃ front back, file = front ++ back ∧ m.Boundary k front back ∧
      (∀ other left, file = other ++ left → m.Boundary k other left → other = front) ∧
      ∀ x frame, x.id = .custom → x.Opens → x.Frames frame → ∀ parallel,
        Transparent m k x frame (strip parallel file) (strip parallel (front ++ (frame ++ back))) := by
  have whole : m = ⟨m.sections.take k ++ m.sections.drop k⟩ := by rw [List.take_append_drop]
  have number : (m.sections.take k).length = k := List.length_take_of_le within
  have spelled := Module.Spells.of_decode decoded
  rw [whole] at spelled
  obtain ⟨front, back, rfl, left, right⟩ := spelled.cut
  have boundary : m.Boundary k front back := by
    have there := spelled.boundary left
    rwa [← whole, number] at there
  refine ⟨front, back, rfl, boundary, fun other rest same again => again.unique boundary same.symm, ?_⟩
  intro x frame isCustom opened framed parallel
  have transparent := Module.transparent_insert spelled left right isCustom opened framed parallel
  rwa [← whole, number] at transparent

/-- A memory section and an export section go, and a custom section with a padded size stands behind them. -/
theorem strip_with_custom_behind :
    Module.decode (header ++ [5, 3, 1, 0, 1, 7, 5, 1, 1, 0x6d, 2, 0, 10, 4, 1, 2, 0, 0x0b]) =
      .ok ⟨[⟨.memories, [1, 0, 1]⟩, ⟨.exports, [1, 1, 0x6d, 2, 0]⟩, ⟨.code, [1, 2, 0, 0x0b]⟩]⟩ ∧
      Transparent
        ⟨[⟨.memories, [1, 0, 1]⟩, ⟨.exports, [1, 1, 0x6d, 2, 0]⟩, ⟨.code, [1, 2, 0, 0x0b]⟩]⟩ 2
        ⟨.custom, [1, 0x61, 7]⟩ [0, 0x83, 0, 1, 0x61, 7]
        (strip true (header ++ [5, 3, 1, 0, 1, 7, 5, 1, 1, 0x6d, 2, 0, 10, 4, 1, 2, 0, 0x0b]))
        (strip true (header ++
          [5, 3, 1, 0, 1, 7, 5, 1, 1, 0x6d, 2, 0, 0, 0x83, 0, 1, 0x61, 7, 10, 4, 1, 2, 0, 0x0b])) := by
  have decoded :
      Module.decode (header ++ [5, 3, 1, 0, 1, 7, 5, 1, 1, 0x6d, 2, 0, 10, 4, 1, 2, 0, 0x0b]) =
        .ok ⟨[⟨.memories, [1, 0, 1]⟩, ⟨.exports, [1, 1, 0x6d, 2, 0]⟩, ⟨.code, [1, 2, 0, 0x0b]⟩]⟩ := by
    cbv
  obtain ⟨front, back, split, -, only, run⟩ := strip_with_custom decoded (k := 2) (by decide)
  have here : front = header ++ [5, 3, 1, 0, 1, 7, 5, 1, 1, 0x6d, 2, 0] :=
    (only _ [10, 4, 1, 2, 0, 0x0b] rfl ⟨decoded, by decide, by cbv⟩).symm
  subst here
  obtain rfl : back = [10, 4, 1, 2, 0, 0x0b] := List.append_cancel_left (split.symm.trans rfl)
  have framed : Section.Frames [0, 0x83, 0, 1, 0x61, 7] ⟨.custom, [1, 0x61, 7]⟩ :=
    ⟨[0x83, 0], ⟨.more (by decide) (.last (by decide)), by decide, by decide⟩, rfl⟩
  have alone : Module.decode (header ++ [0, 3, 1, 0x61, 7]) = .ok ⟨[⟨.custom, [1, 0x61, 7]⟩]⟩ := by
    cbv
  have opened := (Module.Spells.of_decode alone).opened _ List.mem_cons_self
  exact ⟨decoded, run _ _ rfl opened framed true⟩

end Memoryless

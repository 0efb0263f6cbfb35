import Memoryless.Proofs.DraftForm
import Memoryless.Proofs.Transparency
import Memoryless.Proofs.WrittenInstructions

/-!
# Stripping a draft

What becomes of the file of a draft can be told from its parts, if its functions are made of instructions.
`Draft.Answers` lists the answers: the first function with a flaw decides, whatever else is in the draft; then
the memory has to be there, and no data; and then the file is the one of the draft without the memory and its
exports. `Draft.strip_finish_iff` says that exactly these answers are given.

Each answer comes from one step of stripping. The code of a draft is judged in `scan_of_clean` and
`scan_of_flaw`, and what is left without the memory is in `removeMemory_toModule`.
-/

namespace Memoryless

/-- How a flaw of a function is reported, given where in the code section it is. -/
def DraftInstruction.Flaw.error (function : UInt32) (offset : Nat) : Flaw → StripError
  | access opcode => .memoryUsed ⟨opcode, function, offset⟩
  | typeIndexLimit => .scan (.malformedBody function offset .typeIndexLimit)
  | closedEarly => .scan (.malformedBody function offset .afterOperators)
  | unclosed => .scan (.malformedBody function offset .missingEnd)

namespace Draft

open DraftInstruction

/-- Has the part to do with the memory? -/
def Part.ofMemory : Part → Bool
  | memory | memoryExport _ => true
  | _ => false

/-- The function is closed by its last instruction, and none needs a memory. -/
def Clean (f : List DraftInstruction) : Prop :=
  flaw? 0 (f ++ [close]) = none

/-- What is written in the code section before the rest of a function, of which some instructions are
passed. -/
def bytesBefore (front : List (List DraftInstruction)) (f : List DraftInstruction)
    (back : List (List DraftInstruction)) (passed : List DraftInstruction) : Bytes :=
  beforeBody (front ++ f :: back).length (front.map writeBody) (writeBody f) ++
    0x00 :: passed.flatMap write

/-- The answers to a draft with these parts, among them these functions. -/
inductive Answers (parts : List Part) (functions : List (List DraftInstruction)) :
    Except StripError Stripped → Prop
  | flawed {front back : List (List DraftInstruction)} {f passed left : List DraftInstruction}
    {flaw : Flaw} :
    functions = front ++ f :: back → (∀ g ∈ front, Clean g) →
    flaw? 0 (f ++ [close]) = some (flaw, left) → f ++ [close] = passed ++ left →
    Answers parts functions
      (.error (flaw.error front.length.toUInt32 (bytesBefore front f back passed).length))
  | noMemory :
    (∀ f ∈ functions, Clean f) → .memory ∉ parts →
    Answers parts functions (.error (.removal .noMemory))
  | dataSegments :
    (∀ f ∈ functions, Clean f) → .memory ∈ parts → parts.filterMap Part.data? ≠ [] →
    Answers parts functions
      (.error (.removal (.dataSegments (parts.filterMap Part.data?).length.toUInt32)))
  | stripped :
    (∀ f ∈ functions, Clean f) → .memory ∈ parts → parts.filterMap Part.data? = [] →
    Answers parts functions
      (.ok ⟨(ofParts (parts.filter fun part => !part.ofMemory)).finish,
        (parts.filterMap Part.export?).filter fun e => e.kind = .memory,
        (ofParts parts).finish.length⟩)

variable {parts : List Part} {d : Draft} {parallel : Bool} {functions : List (List DraftInstruction)}

/-! ## The code -/

section Code

variable {front back : List (List DraftInstruction)} {f passed left : List DraftInstruction} {flaw : Flaw}

theorem scan_toModule (writable : d.Writable) :
    d.toModule.scan =
      .ofFinding (writeCode d.bodies)
        ((FunctionBody.laidOut 0 d.bodies).findSome? FunctionBody.finding?) :=
  Module.scan_of_framed d.section?_code writable.framed

theorem bodies_split (built : d.bodies = functions.map writeBody) (split : functions = front ++ f :: back) :
    d.bodies = front.map writeBody ++ writeBody f :: back.map writeBody := by
  rw [built, split, List.map_append, List.map_cons]

/-- Nothing is found in what is written of a clean function. -/
theorem inspect_of_clean (fits : ∀ i ∈ f, i.Fits) (short : (writeBody f).length < 2 ^ 32)
    (clean : Clean f) : FunctionBody.inspect (writeBody f) = none := by
  rw [FunctionBody.inspect_writeBody fits short, clean]
  rfl

theorem scan_of_clean (writable : d.Writable) (built : d.bodies = functions.map writeBody)
    (fits : ∀ f ∈ functions, ∀ i ∈ f, i.Fits) (clean : ∀ f ∈ functions, Clean f) :
    d.toModule.scan = .ok none := by
  rw [scan_toModule writable, Verdict.ofFinding_eq_none_iff, FunctionBody.findSome?_laidOut_eq_none_iff]
  intro b member
  have short := writable.short_bodies b member
  rw [built] at member
  obtain ⟨f, defined, rfl⟩ := List.mem_map.mp member
  exact inspect_of_clean (fits f defined) short (clean f defined)

/-- The first function that is not clean decides. -/
theorem scan_of_flaw (writable : d.Writable) (built : d.bodies = functions.map writeBody)
    (fits : ∀ f ∈ functions, ∀ i ∈ f, i.Fits) (split : functions = front ++ f :: back)
    (clean : ∀ g ∈ front, Clean g) (found : flaw? 0 (f ++ [close]) = some (flaw, left)) :
    d.toModule.scan =
      .ofFinding (writeCode d.bodies)
        (some (⟨front.length.toUInt32, writeBody f, (back.map writeBody).flatMap writeSized⟩,
          flaw.finding (left.flatMap write))) := by
  have short : ∀ g ∈ functions, (writeBody g).length < 2 ^ 32 := fun g member =>
    writable.short_bodies _ (built ▸ List.mem_map_of_mem member)
  rw [split] at fits short
  have before : ∀ b ∈ front.map writeBody, FunctionBody.inspect b = none := by
    intro b member
    obtain ⟨g, first, rfl⟩ := List.mem_map.mp member
    have among := List.mem_append_left (f :: back) first
    exact inspect_of_clean (fits g among) (short g among) (clean g first)
  have last : f ∈ front ++ f :: back := List.mem_append_right front List.mem_cons_self
  have here : FunctionBody.inspect (writeBody f) = some (flaw.finding (left.flatMap write)) := by
    rw [FunctionBody.inspect_writeBody (fits f last) (short f last), found]
    rfl
  rw [scan_toModule writable, bodies_split built split, FunctionBody.findSome?_laidOut before here,
    Nat.zero_add, List.length_map]

/-- Where the rest of a function stands in the code section. -/
theorem writeCode_bytesBefore (writable : d.Writable) (built : d.bodies = functions.map writeBody)
    (split : functions = front ++ f :: back) (parted : f ++ [close] = passed ++ left) :
    writeCode d.bodies =
      bytesBefore front f back passed ++
        (left.flatMap write ++ (back.map writeBody).flatMap writeSized) := by
  have count : d.bodies.length = (front ++ f :: back).length := by
    rw [built, List.length_map, split]
  have contents : writeBody f = 0x00 :: (passed.flatMap write ++ left.flatMap write) := by
    rw [writeBody, parted, List.flatMap_append]
  rw [writeCode_split writable.few_bodies (bodies_split built split), count, bytesBefore, List.append_assoc]
  congr 1
  rw [contents, List.cons_append, List.cons_append, List.append_assoc]

end Code

/-! ## The memory -/

/-- The draft without its memory and the exports of it. -/
def withoutMemory (d : Draft) : Draft :=
  { d with memory := false, exports := d.exports.filter fun e => e.kind ≠ .memory }

theorem removeMemory_without (none : d.memory = false) :
    d.toModule.removeMemory = .error .noMemory := by
  apply Module.removeMemory_of_absent
  intro x member isMemory
  cases mem_toModule_iff.mp member with
  | memories memory =>
      rw [none] at memory
      cases memory
  | _ => cases isMemory

theorem removeMemory_with_data (writable : d.Writable) (memory : d.memory = true) (some : d.data ≠ []) :
    d.toModule.removeMemory = .error (.dataSegments d.data.length.toUInt32) := by
  have hasMemory : d.toModule.Has .memories := ⟨_, mem_toModule_iff.mpr (.memories memory), rfl⟩
  obtain ⟨before, after, split⟩ := List.append_of_mem (mem_toModule_iff.mpr (.data some))
  have first := Module.First.of_ordered d.ordered split rfl
  have counts : (entriesSection .data d.data.length (d.data.flatMap writeSegment)).Counts
      d.data.length.toUInt32.toNat := ⟨_, _, spells_number d.data.length, rfl⟩
  have nonzero : d.data.length.toUInt32 ≠ 0 := by
    intro zero
    have same : d.data.length.toUInt32.toNat = d.data.length :=
      UInt32.toNat_ofNat_of_lt' writable.few_data
    rw [zero] at same
    exact some (List.length_eq_zero_iff.mp same.symm)
  exact Module.removeMemory_error_iff.mpr (.dataSegments hasMemory first counts nonzero)

/-- What is written of some exports comes to what is written of those that are no memory. -/
theorem pruned_writeAll {entries : List Export} (some : entries ≠ []) :
    Removal.Pruned entries ⟨.exports, Export.writeAll entries⟩
      (exportSections (entries.filter fun e => e.kind ≠ .memory)) := by
  unfold exportSections
  by_cases memory : ∃ e ∈ entries, e.kind = .memory
  · by_cases other : ∃ e ∈ entries, e.kind ≠ .memory
    · have kept : (entries.filter fun e => e.kind ≠ .memory) ≠ [] := by
        obtain ⟨e, member, notMemory⟩ := other
        exact List.ne_nil_of_mem (List.mem_filter.mpr ⟨member, decide_eq_true notMemory⟩)
      rw [if_neg kept]
      exact .rewritten memory other
    · have all : ∀ e ∈ entries, e.kind = .memory := by simpa using other
      have gone : (entries.filter fun e => e.kind ≠ .memory) = [] := by simpa using all
      rw [if_pos gone]
      exact .dropped some all
  · have plain : ∀ e ∈ entries, e.kind ≠ .memory := by simpa using memory
    have same : (entries.filter fun e => e.kind ≠ .memory) = entries := by simpa using plain
    rw [same, if_neg some]
    exact .kept plain

theorem prunes_toModule (exported : Export.SpellsAll (Export.writeAll d.exports) d.exports) :
    Removal.Prunes d.toModule.sections
      (d.sectionsBefore ++ exportSections (d.exports.filter fun e => e.kind ≠ .memory) ++
        d.sectionsAfter)
      (d.exports.filter fun e => e.kind = .memory) := by
  by_cases none : d.exports = []
  · have absent : ∀ x ∈ d.toModule.sections, x.id ≠ .exports := by
      intro x member isExports
      cases mem_toModule_iff.mp member with
      | exports some => exact some none
      | _ => cases isExports
    have same : d.toModule.sections = d.sectionsBefore ++ exportSections [] ++ d.sectionsAfter := by
      rw [← none, toModule]
    rw [none, List.filter_nil, List.filter_nil, ← same]
    exact .absent absent
  · have split : d.toModule.sections =
        d.sectionsBefore ++ ⟨.exports, Export.writeAll d.exports⟩ :: d.sectionsAfter := by
      rw [toModule, exportSections, if_neg none, List.append_assoc, List.singleton_append]
    have first := Module.First.of_ordered d.ordered split rfl
    exact .first first (Export.parse_ok_iff.mpr exported) (pruned_writeAll none)

/-- What is left is the module of the draft without its memory and the exports of it. -/
theorem removeMemory_toModule (writable : d.Writable) (memory : d.memory = true) (none : d.data = []) :
    d.toModule.removeMemory =
      .ok ⟨d.withoutMemory.toModule, d.exports.filter fun e => e.kind = .memory⟩ := by
  -- The exports are pruned among the sections that are left once the memory section is taken out.
  let bare : Draft := { d with memory := false }
  have noSegments : Removal.NoSegments d.toModule := by
    intro before data after first
    obtain ⟨x, member, isData⟩ := first.has
    cases mem_toModule_iff.mp member with
    | data some => exact absurd none some
    | _ => cases isData
  have split : d.toModule.sections =
      [entriesSection .types 1 writeType,
        entriesSection .functions d.bodies.length (List.replicate d.bodies.length 0x00)] ++
      entriesSection .memories 1 writeMemory :: (exportSections d.exports ++ d.sectionsAfter) := by
    simp [toModule, sectionsBefore, memory]
  have first := Module.First.of_ordered d.ordered split rfl
  have prunes : Removal.Prunes bare.toModule.sections _ _ := prunes_toModule writable.exported
  exact Module.removeMemory_ok_iff.mpr (.done noSegments first prunes)

theorem withoutMemory_add (d : Draft) (part : Part) :
    (d.add part).withoutMemory =
      if part.ofMemory then d.withoutMemory else d.withoutMemory.add part := by
  cases part <;>
    simp [add, withMemory, withFunction, withFunctionExport, withMemoryExport, withData, withCustom,
      withoutMemory, Part.ofMemory]

theorem ofParts_filter (parts : List Part) :
    ofParts (parts.filter fun part => !part.ofMemory) = (ofParts parts).withoutMemory := by
  induction parts using List.reverseRecOn with
  | nil => rfl
  | append_singleton parts part ih =>
      rw [ofParts_concat, withoutMemory_add, List.filter_append, List.filter_singleton]
      cases part.ofMemory with
      | true => simpa using ih
      | false => simpa [ofParts_concat] using congrArg (fun rest => rest.add part) ih

/-! ## Answers -/

section Answers

variable {file : Bytes} {m : Module}

theorem strip_of_flaw (decoded : Module.decode file = .ok m) {payload place : Bytes} {body : FunctionBody}
    {flaw : Flaw} (scanned : m.scan = .ofFinding payload (some (body, flaw.finding place))) :
    strip parallel file = .error (flaw.error body.index (body.offset payload place)) := by
  rw [strip_of_decode decoded, Module.requireClean, Module.scanParallel_eq_scan, ite_self, scanned]
  cases flaw <;> rfl

theorem strip_of_removal (decoded : Module.decode file = .ok m) (clean : m.scan = .ok none)
    {removal : Removal} (run : m.removeMemory = .ok removal) :
    strip parallel file = .ok ⟨removal.remaining.encode, removal.removedExports, file.length⟩ := by
  rw [strip_of_decode decoded, Module.requireClean_ok_iff.mpr clean, run]
  rfl

theorem exists_answer (parts : List Part) (functions : List (List DraftInstruction)) :
    ∃ answer, Answers parts functions answer := by
  by_cases clean : ∀ f ∈ functions, Clean f
  · by_cases memory : .memory ∈ parts
    · by_cases none : parts.filterMap Part.data? = []
      · exact ⟨_, .stripped clean memory none⟩
      · exact ⟨_, .dataSegments clean memory none⟩
    · exact ⟨_, .noMemory clean memory⟩
  · obtain ⟨i, f, at_i, before, unclean⟩ := Module.exists_first clean
    obtain ⟨inside, rfl⟩ := List.getElem?_eq_some_iff.mp at_i
    obtain ⟨⟨flaw, left⟩, found⟩ := Option.ne_none_iff_exists'.mp unclean
    obtain ⟨passed, parted⟩ := flaw?_suffix found
    have split : functions = functions.take i ++ functions[i] :: functions.drop (i + 1) := by
      rw [List.getElem_cons_drop, List.take_append_drop]
    exact ⟨_, .flawed split before found parted.symm⟩

end Answers

/-- The functions of the module: those that were added, or the one that returns 42. -/
def defined (functions : List (List DraftInstruction)) : List (List DraftInstruction) :=
  if functions = [] then [answer] else functions

theorem bodies_eq_map (built : parts.filterMap Part.body? = functions.map writeBody) :
    (ofParts parts).bodies = (defined functions).map writeBody := by
  rw [bodies_ofParts, built, defined, if_congr List.map_eq_nil_iff rfl rfl, apply_ite (List.map writeBody),
    List.map_singleton]

/-- What holds of the functions that were added holds of all, as the other one is clean. -/
theorem forall_defined {P : List DraftInstruction → Prop} (default : P answer)
    (each : ∀ f ∈ functions, P f) : ∀ f ∈ defined functions, P f := by
  rw [defined]
  split
  · exact List.forall_mem_singleton.mpr default
  · exact each

theorem Answers.strip_eq {answer : Except StripError Stripped} (answers : Answers parts functions answer)
    (built : parts.filterMap Part.body? = functions.map writeBody) (parallel : Bool)
    (named : ∀ name ∈ parts.filterMap Part.name?, (Name.utf8 name).length ≤ Name.limit)
    (fits : ∀ f ∈ functions, ∀ i ∈ f, i.Fits) (short : (ofParts parts).finish.length < 2 ^ 32) :
    strip parallel (ofParts parts).finish = answer := by
  have writable := writable_ofParts named short
  have decoded := writable.decode
  have bodies := bodies_eq_map built
  have allFit : ∀ f ∈ defined functions, ∀ i ∈ f, i.Fits := forall_defined (by decide) fits
  have scanned : (∀ f ∈ functions, Clean f) → (ofParts parts).toModule.scan = .ok none := fun clean =>
    scan_of_clean writable bodies allFit (forall_defined rfl clean)
  have memory : (ofParts parts).memory = decide (.memory ∈ parts) := by rw [ofParts_eq_sorted, sorted]
  have data : (ofParts parts).data = parts.filterMap Part.data? := by rw [ofParts_eq_sorted, sorted]
  cases answers with
  | @flawed front back f _ _ _ split clean found parted =>
      have all : defined functions = front ++ f :: back := by
        have nonempty := List.append_ne_nil_of_right_ne_nil front (List.cons_ne_nil f back)
        rw [defined, split, if_neg nonempty]
      rw [strip_of_flaw decoded (scan_of_flaw writable bodies allFit all clean found),
        FunctionBody.offset_eq (writeCode_bytesBefore writable bodies all parted)]
  | noMemory clean without =>
      have none : (ofParts parts).memory = false := memory.trans (decide_eq_false without)
      exact strip_removal_error decoded (scanned clean) (removeMemory_without none)
  | dataSegments clean added some =>
      have has : (ofParts parts).memory = true := memory.trans (decide_eq_true added)
      rw [← data] at some ⊢
      exact strip_removal_error decoded (scanned clean) (removeMemory_with_data writable has some)
  | stripped clean added none =>
      have has : (ofParts parts).memory = true := memory.trans (decide_eq_true added)
      have exports : (ofParts parts).exports = parts.filterMap Part.export? := by
        rw [ofParts_eq_sorted, sorted]
      have removed := removeMemory_toModule writable has (data.trans none)
      rw [strip_of_removal decoded (scanned clean) removed, ofParts_filter,
        finish_eq (ofParts parts).withoutMemory, exports]

/-- What stripping the file of a draft comes to, whatever was added to it and in whatever order, if its
functions are made of instructions. The first function that is not clean decides: what is wrong with it is
reported, with its place in the code. If all are clean, the memory has to be there, and no data. Then the file
that comes out is the one of the draft without the memory and its exports, and those are reported. -/
theorem strip_finish_iff (parts : List Part) (functions : List (List DraftInstruction))
    (built : parts.filterMap Part.body? = functions.map writeBody) (parallel : Bool)
    (answer : Except StripError Stripped)
    (named : ∀ name ∈ parts.filterMap Part.name?, (Name.utf8 name).length ≤ Name.limit)
    (fits : ∀ f ∈ functions, ∀ i ∈ f, i.Fits) (short : (ofParts parts).finish.length < 2 ^ 32) :
    strip parallel (ofParts parts).finish = answer ↔ Answers parts functions answer := by
  refine ⟨fun run => ?_, fun answers => answers.strip_eq built parallel named fits short⟩
  obtain ⟨other, answers⟩ := exists_answer parts functions
  rw [← run, answers.strip_eq built parallel named fits short]
  exact answers

/-- Types and a constant that are written like memory instructions, and in the second function a load from
another memory. -/
def loads : List (List DraftInstruction) :=
  [[.block (.functionType 0x28), .close, .block (.result (.reference false (.concrete 0x3f))), .close,
      .i32Const 40],
    [.i32Const (-1), .drop, .i32Load 2 300 1]]

/-- The functions between a memory and its export. -/
def loading : List Part :=
  .memoryExport "m" :: loads.map Part.function ++ [.memory]

theorem strip_finish_loads :
    loading.filterMap Part.body? = loads.map writeBody ∧
      (∀ name ∈ loading.filterMap Part.name?, (Name.utf8 name).length ≤ Name.limit) ∧
      (∀ f ∈ loads, ∀ i ∈ f, i.Fits) ∧ (ofParts loading).finish.length < 2 ^ 32 ∧
      strip true (ofParts loading).finish = .error (.memoryUsed ⟨.i32Load, 1, 18⟩) ∧
      Answers loading loads (.error (.memoryUsed ⟨.i32Load, 1, 18⟩)) := by
  have built : loading.filterMap Part.body? = loads.map writeBody := by cbv
  have named : ∀ name ∈ loading.filterMap Part.name?, (Name.utf8 name).length ≤ Name.limit := by decide
  have fits : ∀ f ∈ loads, ∀ i ∈ f, i.Fits := by decide
  have short : (ofParts loading).finish.length < 2 ^ 32 := by cbv
  have run : strip true (ofParts loading).finish = .error (.memoryUsed ⟨.i32Load, 1, 18⟩) := by cbv
  have answers := (strip_finish_iff loading loads built true _ named fits short).mp run
  exact ⟨built, named, fits, short, run, answers⟩

/-- A function that is closed by its last instruction and needs no memory, with a block whose result names the
first type beyond the limit. -/
def referring : List DraftInstruction :=
  [.block (.result (.reference true (.concrete 0x100000))), .close, .i32Const 42]

/-- The function is refused, although nothing is wrong with its instructions but the index, and the missing
memory is not reported. -/
theorem strip_finish_referring :
    (∀ i ∈ referring ++ [close], i.Fits ∧ i.memoryOpcode? = none) ∧
      (referring ++ [close]).map nesting = [.opens, .closes, .level, .closes] ∧
      .memory ∉ [Part.function referring] ∧
      strip false (ofParts [.function referring]).finish =
        .error (.scan (.malformedBody 0 9 .typeIndexLimit)) ∧
      strip false (ofParts [.function referring]).finish ≠ .error (.removal .noMemory) := by
  have run : strip false (ofParts [.function referring]).finish =
      .error (.scan (.malformedBody 0 9 .typeIndexLimit)) := by cbv
  refine ⟨by decide, rfl, by decide, run, ?_⟩
  rw [run]
  decide

end Draft

end Memoryless

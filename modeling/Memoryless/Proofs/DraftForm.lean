import Memoryless.Draft
import Memoryless.Proofs.RemovalOutcome
import Memoryless.Proofs.Relocation
import Memoryless.Proofs.RoundTrip

/-!
# The form of a finished draft

A draft is written section by section, by a writer of its own: no module is put together first, and the
size of a section is known before its payload. `Draft.toModule` is the module that the file stands for, and
`Draft.finish_eq` says that the file is what is written of that module anyway. If the names are no longer
than names may be and the file is shorter than 4 GiB, the module is well formed (`Writable.wellFormed`), so
the file is read as it.

The parts of a draft may be added in any order. `Draft.ofParts_eq_sorted` says what is left of that order:
each kind of part is kept in a row of its own.
-/

namespace Memoryless

namespace Draft

/-! ## Parts -/

namespace Part

/-- The body of the function that a part adds. -/
def body? : Part → Option Bytes
  | body contents => some contents
  | _ => none

/-- The export that a part adds. An exported memory is the first one. -/
def export? : Part → Option Export
  | functionExport name index => some ⟨name, .function, index⟩
  | memoryExport name => some ⟨name, .memory, 0⟩
  | _ => none

/-- The data segment that a part adds. -/
def data? : Part → Option Bytes
  | data bytes => some bytes
  | _ => none

/-- The custom section that a part adds. -/
def custom? : Part → Option (String × Bytes)
  | custom name contents => some (name, contents)
  | _ => none

/-- The name in a part. -/
def name? (part : Part) : Option String :=
  (part.export?.map Export.name).or (part.custom?.map Prod.fst)

end Part

/-- The draft that has each kind of part in a row. -/
def sorted (parts : List Part) : Draft where
  memory := decide (.memory ∈ parts)
  functions := parts.filterMap Part.body?
  exports := parts.filterMap Part.export?
  data := parts.filterMap Part.data?
  customs := parts.filterMap Part.custom?

variable {parts : List Part} {d : Draft}

/-- A part goes to the end of its own row and leaves the others. -/
theorem add_sorted (parts : List Part) (part : Part) :
    (sorted parts).add part = sorted (parts ++ [part]) := by
  cases part <;>
    simp [sorted, add, withMemory, withFunction, withFunctionExport, withMemoryExport, withData,
      withCustom, Part.body?, Part.export?, Part.data?, Part.custom?]

theorem ofParts_concat (parts : List Part) (part : Part) :
    ofParts (parts ++ [part]) = (ofParts parts).add part :=
  List.foldl_concat ..

theorem ofParts_eq_sorted (parts : List Part) : ofParts parts = sorted parts := by
  induction parts using List.reverseRecOn with
  | nil => rfl
  | append_singleton parts part ih => rw [ofParts_concat, ih, add_sorted]

/-! ## Sections -/

/-- A section that holds some entries after their number. -/
def entriesSection (id : SectionId) (count : Nat) (entries : Bytes) : Section :=
  ⟨id, Leb128.ofNat count.toUInt32.toNat ++ entries⟩

/-- A custom section with a name. -/
def customSection (custom : String × Bytes) : Section :=
  ⟨.custom, Name.write custom.1 ++ custom.2⟩

theorem writeEntries_eq (id : SectionId) (count : Nat) (entries : Bytes) :
    writeEntries id count entries = (entriesSection id count entries).write := by
  simp only [writeEntries, Section.write, entriesSection, List.length_append]

theorem writeCustom_eq (custom : String × Bytes) :
    writeCustom custom = (customSection custom).write := by
  simp only [writeCustom, Section.write, customSection, Name.write, List.length_append]

/-- The sections in front of the exports. -/
def sectionsBefore (d : Draft) : List Section :=
  [entriesSection .types 1 writeType,
    entriesSection .functions d.bodies.length (List.replicate d.bodies.length 0x00)] ++
    if d.memory then [entriesSection .memories 1 writeMemory] else []

/-- The export section, if there is anything to export. -/
def exportSections (entries : List Export) : List Section :=
  if entries = [] then [] else [⟨.exports, Export.writeAll entries⟩]

/-- The sections behind the exports. -/
def sectionsAfter (d : Draft) : List Section :=
  [⟨.code, writeCode d.bodies⟩] ++
    (if d.data = [] then [] else [entriesSection .data d.data.length (d.data.flatMap writeSegment)]) ++
    d.customs.map customSection

/-- The module that a draft describes. -/
def toModule (d : Draft) : Module :=
  ⟨d.sectionsBefore ++ exportSections d.exports ++ d.sectionsAfter⟩

/-- The sections of the module, each with what it is there for. -/
inductive Contains (d : Draft) : Section → Prop
  | types : Contains d (entriesSection .types 1 writeType)
  | functions :
    Contains d (entriesSection .functions d.bodies.length (List.replicate d.bodies.length 0x00))
  | memories : d.memory = true → Contains d (entriesSection .memories 1 writeMemory)
  | exports : d.exports ≠ [] → Contains d ⟨.exports, Export.writeAll d.exports⟩
  | code : Contains d ⟨.code, writeCode d.bodies⟩
  | data :
    d.data ≠ [] → Contains d (entriesSection .data d.data.length (d.data.flatMap writeSegment))
  | custom {custom : String × Bytes} : custom ∈ d.customs → Contains d (customSection custom)

theorem mem_toModule_iff {x : Section} : x ∈ d.toModule.sections ↔ d.Contains x := by
  simp only [toModule, sectionsBefore, exportSections, sectionsAfter, List.mem_append, List.mem_cons,
    List.not_mem_nil, or_false, List.mem_map, List.mem_ite_nil_left, List.mem_ite_nil_right]
  refine ⟨fun parts => ?_, fun here => ?_⟩
  · obtain (((rfl | rfl) | ⟨memory, rfl⟩) | ⟨some, rfl⟩) | (rfl | ⟨some, rfl⟩) | ⟨custom, member, rfl⟩ :=
      parts
    · exact .types
    · exact .functions
    · exact .memories memory
    · exact .exports some
    · exact .code
    · exact .data some
    · exact .custom member
  · cases here with
    | types => simp
    | functions => simp
    | memories memory => simp [memory]
    | exports some => simp [some]
    | code => simp
    | data some => simp [some]
    | custom member => exact .inr (.inr ⟨_, member, rfl⟩)

/-- The file is what is written of the module. -/
theorem finish_eq (d : Draft) : d.finish = d.toModule.encode := by
  have exports : writeEntries .exports d.exports.length (d.exports.flatMap Export.write) =
      Section.write ⟨.exports, Export.writeAll d.exports⟩ := writeEntries_eq ..
  have code : writeEntries .code d.bodies.length (d.bodies.flatMap writeSized) =
      Section.write ⟨.code, writeCode d.bodies⟩ := writeEntries_eq ..
  have customs : d.customs.flatMap writeCustom = (d.customs.map customSection).flatMap Section.write := by
    rw [List.flatMap_map]
    exact List.flatMap_congr fun custom _ => writeCustom_eq custom
  simp only [finish, exports, code, customs, writeEntries_eq, toModule, sectionsBefore,
    exportSections, sectionsAfter, Module.encode, List.flatMap_append, List.flatMap_cons, List.flatMap_nil, List.append_nil, List.append_assoc,
    apply_ite (List.flatMap Section.write), List.isEmpty_iff]

/-! ## Order -/

/-- The kinds of the sections, in the order in which they are written. -/
def kinds (d : Draft) : List SectionId :=
  [SectionId.types, SectionId.functions] ++ (if d.memory then [SectionId.memories] else []) ++
    (if d.exports = [] then [] else [SectionId.exports]) ++ [SectionId.code] ++
    (if d.data = [] then [] else [SectionId.data]) ++ d.customs.map fun _ => SectionId.custom

theorem map_id_toModule (d : Draft) : d.toModule.sections.map Section.id = d.kinds := by
  simp only [toModule, sectionsBefore, exportSections, sectionsAfter, kinds, List.map_append,
    List.map_cons, List.map_nil, List.map_map, apply_ite (List.map Section.id), List.append_assoc]
  rfl

theorem ordered (d : Draft) : (Module.ranks d.toModule.sections).Pairwise (· < ·) := by
  have unranked : (d.customs.map fun _ => SectionId.custom).filterMap SectionId.rank? = [] := by
    simp [SectionId.rank?]
  rw [Module.ranks_eq_filterMap, map_id_toModule, kinds, List.filterMap_append, unranked]
  split_ifs <;> decide

/-! ## Payloads -/

theorem spells_number (count : Nat) :
    Leb128.Spells 32 (Leb128.ofNat count.toUInt32.toNat) count.toUInt32.toNat :=
  .ofNat (by decide) count.toUInt32.toNat_lt

/-- A payload that begins with a number is a beginning of its section, unless it has to begin otherwise. -/
theorem opens_number (count : Nat) (entries : Bytes) :
    ∃ number n more, Leb128.Spells 32 number n ∧
      Leb128.ofNat count.toUInt32.toNat ++ entries = number ++ more :=
  ⟨_, _, entries, spells_number count, rfl⟩

theorem opens_customSection {custom : String × Bytes}
    (named : (Name.utf8 custom.1).length ≤ Name.limit) : (customSection custom).Opens := by
  have fits : (Name.utf8 custom.1).length < 2 ^ 32 := Nat.lt_of_le_of_lt named (by decide)
  exact ⟨Name.write custom.1, custom.1, custom.2, ⟨_, rfl, .ofNat (by decide) fits, named⟩, rfl⟩

theorem opened (named : ∀ custom ∈ d.customs, (Name.utf8 custom.1).length ≤ Name.limit) :
    ∀ x ∈ d.toModule.sections, x.Opens := by
  intro x member
  cases mem_toModule_iff.mp member with
  | custom added => exact opens_customSection (named _ added)
  | _ => exact opens_number ..

/-! ## Size -/

/-- A draft whose file can be written and read: no name is too long, and no size or number in the file needs
more than 32 bits. -/
structure Writable (d : Draft) : Prop where
  exportsNamed : ∀ e ∈ d.exports, (Name.utf8 e.name).length ≤ Name.limit
  customsNamed : ∀ custom ∈ d.customs, (Name.utf8 custom.1).length ≤ Name.limit
  short : d.finish.length < 2 ^ 32

theorem Writable.payload_lt (writable : d.Writable) :
    ∀ x ∈ d.toModule.sections, x.payload.length < 2 ^ 32 := by
  intro x member
  refine Nat.lt_of_le_of_lt ?_ writable.short
  rw [finish_eq]
  exact Module.length_payload_le member

theorem Writable.decode (writable : d.Writable) : Module.decode d.finish = .ok d.toModule := by
  rw [finish_eq]
  exact Module.WellFormed.round_trip ⟨d.ordered, opened writable.customsNamed⟩ writable.payload_lt

theorem writable_ofParts
    (named : ∀ name ∈ parts.filterMap Part.name?, (Name.utf8 name).length ≤ Name.limit)
    (short : (ofParts parts).finish.length < 2 ^ 32) : (ofParts parts).Writable := by
  have inParts : ∀ part ∈ parts, ∀ name, part.name? = some name → (Name.utf8 name).length ≤ Name.limit :=
    fun part member name found => named name (List.mem_filterMap.mpr ⟨part, member, found⟩)
  refine ⟨?_, ?_, short⟩
  · intro e member
    rw [ofParts_eq_sorted] at member
    obtain ⟨part, added, found⟩ := List.mem_filterMap.mp member
    exact inParts part added e.name (by rw [Part.name?, found]; rfl)
  · intro custom member
    rw [ofParts_eq_sorted] at member
    obtain ⟨part, added, found⟩ := List.mem_filterMap.mp member
    refine inParts part added custom.1 ?_
    cases part <;> cases found
    rfl

/-! ## Entries -/

theorem length_le_length_flatMap {α : Type} {all : List α} {write : α → Bytes}
    (some : ∀ a ∈ all, write a ≠ []) : all.length ≤ (all.flatMap write).length := by
  rw [List.length_flatMap, ← List.length_map fun a => (write a).length]
  apply List.length_le_sum_of_one_le
  intro n member
  obtain ⟨a, among, rfl⟩ := List.mem_map.mp member
  exact List.length_pos_of_ne_nil (some a among)

theorem length_entries_lt (writable : d.Writable) {id : SectionId} {count : Nat} {entries : Bytes}
    (here : d.Contains (entriesSection id count entries)) : entries.length < 2 ^ 32 := by
  have short := writable.payload_lt _ (mem_toModule_iff.mpr here)
  rw [entriesSection, List.length_append] at short
  omega

theorem Writable.few_bodies (writable : d.Writable) : d.bodies.length < 2 ^ 32 := by
  have entries := length_entries_lt writable .functions
  rwa [List.length_replicate] at entries

theorem Writable.few_exports (writable : d.Writable) : d.exports.length < 2 ^ 32 := by
  by_cases none : d.exports = []
  · rw [none]
    decide
  · have entries := length_entries_lt writable (.exports none)
    refine Nat.lt_of_le_of_lt (length_le_length_flatMap fun e _ => ?_) entries
    simp [Export.write]

theorem Writable.few_data (writable : d.Writable) : d.data.length < 2 ^ 32 := by
  by_cases none : d.data = []
  · rw [none]
    decide
  · have entries := length_entries_lt writable (.data none)
    refine Nat.lt_of_le_of_lt (length_le_length_flatMap fun bytes _ => ?_) entries
    simp [writeSegment]

theorem Writable.short_bodies (writable : d.Writable) : ∀ b ∈ d.bodies, b.length < 2 ^ 32 := by
  intro b member
  have part : (writeSized b).length ≤ (d.bodies.flatMap writeSized).length :=
    (List.sublist_flatten_of_mem (List.mem_map_of_mem member)).length_le
  have entries := length_entries_lt writable .code
  rw [writeSized, List.length_append] at part
  omega

theorem Writable.framed (writable : d.Writable) :
    FunctionBody.Framed (writeCode d.bodies) (FunctionBody.laidOut 0 d.bodies) :=
  framed_writeCode writable.few_bodies writable.short_bodies

theorem Writable.exported (writable : d.Writable) :
    Export.SpellsAll (Export.writeAll d.exports) d.exports :=
  .writeAll writable.few_exports writable.exportsNamed

/-! ## The file -/

theorem section?_code (d : Draft) : d.toModule.section? .code = some ⟨.code, writeCode d.bodies⟩ := by
  obtain ⟨before, after, split⟩ := List.append_of_mem (mem_toModule_iff.mpr .code)
  exact (Module.First.of_ordered d.ordered split rfl).section?_eq

theorem eq_exports_of_mem {x : Section} (member : x ∈ d.toModule.sections) (isExports : x.id = .exports) :
    x = ⟨.exports, Export.writeAll d.exports⟩ := by
  cases mem_toModule_iff.mp member with
  | exports => rfl
  | _ => cases isExports

theorem customs_eq (d : Draft) :
    (d.toModule.sections.filter fun x => x.id = .custom) = d.customs.map customSection := by
  have all : ((d.customs.map customSection).filter fun x => x.id = .custom) =
      d.customs.map customSection := by
    apply List.filter_eq_self.mpr
    intro x member
    obtain ⟨custom, -, rfl⟩ := List.mem_map.mp member
    rfl
  simp only [toModule, sectionsBefore, exportSections, sectionsAfter, List.filter_append, all]
  split_ifs <;> simp [entriesSection]

theorem bodies_ofParts (parts : List Part) :
    (ofParts parts).bodies =
      if parts.filterMap Part.body? = [] then [writeBody answer] else parts.filterMap Part.body? := by
  rw [ofParts_eq_sorted, bodies, sorted]
  simp only [List.isEmpty_iff]

/-- Whatever is added to a draft, and in whatever order: the file is read, and what was read is written as the
same file. Its sections come in the order of their ranks and then the custom ones, and those of the memory,
the exports and the data are there only if there is something in them. Exports, bodies and custom sections
come in the order in which they were added. -/
theorem finish_canonical (parts : List Part)
    (named : ∀ name ∈ parts.filterMap Part.name?, (Name.utf8 name).length ≤ Name.limit)
    (short : (ofParts parts).finish.length < 2 ^ 32) :
    ∃ m, Module.decode (ofParts parts).finish = .ok m ∧ m.encode = (ofParts parts).finish ∧
      m.sections.map Section.id =
        [SectionId.types, SectionId.functions] ++
          (if .memory ∈ parts then [SectionId.memories] else []) ++
          (if parts.filterMap Part.export? = [] then [] else [SectionId.exports]) ++ [SectionId.code] ++
          (if parts.filterMap Part.data? = [] then [] else [SectionId.data]) ++
          (parts.filterMap Part.custom?).map (fun _ => SectionId.custom) ∧
      (m.sections.filter fun x => x.id = .custom) = (parts.filterMap Part.custom?).map customSection ∧
      (∀ x ∈ m.sections, x.id = .exports →
        Removal.parseExports x = .ok (parts.filterMap Part.export?)) ∧
      ∃ payload bodies, m.section? .code = some ⟨.code, payload⟩ ∧
        FunctionBody.parse payload = .ok bodies ∧
        bodies.map FunctionBody.contents =
          (if parts.filterMap Part.body? = [] then [writeBody answer] else parts.filterMap Part.body?) ∧
        bodies.length =
          if parts.filterMap Part.body? = [] then 1 else (parts.filterMap Part.body?).length := by
  have writable := writable_ofParts named short
  have framed := FunctionBody.parse_ok_iff.mpr writable.framed
  refine ⟨_, writable.decode, (finish_eq _).symm, ?_, ?_, ?_, _, _, section?_code _, framed, ?_, ?_⟩
  · rw [map_id_toModule, ofParts_eq_sorted, kinds, sorted]
    dsimp only
    rw [if_congr decide_eq_true_iff rfl rfl]
  · rw [customs_eq, ofParts_eq_sorted, sorted]
  · intro x member isExports
    have exported := Export.parse_ok_iff.mpr writable.exported
    rw [eq_exports_of_mem member isExports]
    apply mapError_ok_iff.mpr
    rw [exported, ofParts_eq_sorted, sorted]
  · rw [FunctionBody.map_contents_laidOut, bodies_ofParts]
  · rw [FunctionBody.length_laidOut, bodies_ofParts, apply_ite List.length, List.length_singleton]

/-- The parts come in the reverse order of their sections, and the function has two local variables. -/
def reversed : List Part :=
  [.custom "c" [7], .body [0x01, 0x02, 0x7f, 0x20, 0x01, 0x0b], .memoryExport "m", .memory]

theorem finish_canonical_reversed :
    (∀ name ∈ reversed.filterMap Part.name?, (Name.utf8 name).length ≤ Name.limit) ∧
      (ofParts reversed).finish.length < 2 ^ 32 ∧
      ∃ m, Module.decode (ofParts reversed).finish = .ok m ∧ m.encode = (ofParts reversed).finish ∧
        m.sections.map Section.id = [.types, .functions, .memories, .exports, .code, .custom] ∧
        ∃ payload bodies, m.section? .code = some ⟨.code, payload⟩ ∧
          FunctionBody.parse payload = .ok bodies ∧
          bodies.map FunctionBody.contents = [[0x01, 0x02, 0x7f, 0x20, 0x01, 0x0b]] := by
  have named : ∀ name ∈ reversed.filterMap Part.name?, (Name.utf8 name).length ≤ Name.limit := by decide
  have short : (ofParts reversed).finish.length < 2 ^ 32 := by cbv
  obtain ⟨m, decoded, encoded, kinds, -, -, payload, bodies, code, cut, contents, -⟩ :=
    finish_canonical reversed named short
  exact ⟨named, short, m, decoded, encoded, kinds, payload, bodies, code, cut, contents⟩

end Draft

end Memoryless

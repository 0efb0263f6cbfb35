import Memoryless.Command.Run
import Memoryless.Proofs.Restripping

/-!
# All or nothing

A run writes one file, and does so last. `Runs` lists what a run can come to: the files are as they
were, unless every step succeeded (`run_all_or_nothing`).

The file that was written is found where it was put: a location that can be written is not a directory,
so no path leads through it, before or after (`FileMap.locate_put`). Hence a second run that reads what
the first one wrote does get a stripped module, which it refuses (`strip_again`).
-/

namespace Memoryless.Command

namespace FileMap

variable {files after : FileMap} {l k d : Location} {step : PathStep} {text : String} {bytes : Bytes}
  {path : Path}

/-! ## Paths in a map in which a file was put -/

theorem names_ne_nil (notDirectory : files.get? l ≠ some .directory) : l.names ≠ [] :=
  fun origin => notDirectory (if_pos origin)

theorem find_ok_iff {found : Option Node} :
    files.find l = .ok found ↔ l.isTooLong = false ∧ files.get? l = found := by
  unfold find
  cases l.isTooLong <;> simp

theorem enter_ok_iff :
    files.enter k step = .ok d ↔ k.follow step = d ∧ files.find d = .ok (some .directory) := by
  unfold enter
  rw [bind_ok_iff]
  constructor
  · rintro ⟨_ | _ | _, found, entered⟩ <;> cases entered
    exact ⟨rfl, found⟩
  · rintro ⟨rfl, found⟩
    exact ⟨_, found, rfl⟩

/-- A file that is put where no directory is stands in nobody's way. -/
theorem enter_put (notDirectory : files.get? l ≠ some .directory) (entered : files.enter k step = .ok d) :
    (files.put l bytes).enter k step = .ok d := by
  obtain ⟨rfl, found⟩ := enter_ok_iff.mp entered
  obtain ⟨short, directory⟩ := find_ok_iff.mp found
  have apart : k.follow step ≠ l := fun same => notDirectory (same ▸ directory)
  refine enter_ok_iff.mpr ⟨rfl, find_ok_iff.mpr ⟨short, ?_⟩⟩
  rw [get?_put files (names_ne_nil notDirectory), if_neg apart, directory]

theorem foldlM_enter_put (notDirectory : files.get? l ≠ some .directory) {steps : List PathStep}
    (entered : steps.foldlM files.enter k = .ok d) : steps.foldlM (files.put l bytes).enter k = .ok d := by
  induction steps generalizing k with
  | nil => exact entered
  | cons step steps ih =>
      rw [List.foldlM_cons, bind_ok_iff] at entered ⊢
      obtain ⟨next, first, later⟩ := entered
      exact ⟨next, enter_put notDirectory first, ih later⟩

theorem locate_ok_iff :
    files.locate text = .ok (path, l) ↔
      text.utf8ByteSize ≤ Path.limit ∧ Path.ofText text = path ∧ files.resolve path = .ok l := by
  unfold locate
  by_cases long : Path.limit < text.utf8ByteSize
  · rw [if_pos long]
    exact iff_of_false (by rintro ⟨⟩) fun parts => Nat.not_le_of_lt long parts.1
  · simp only [if_neg long, bind_ok_iff]
    constructor
    · rintro ⟨_, resolved, same⟩
      cases same
      exact ⟨Nat.le_of_not_lt long, rfl, resolved⟩
    · rintro ⟨-, rfl, resolved⟩
      exact ⟨l, resolved, rfl⟩

/-- A path leads where it led before. -/
theorem locate_put (notDirectory : files.get? l ≠ some .directory)
    (located : files.locate text = .ok (path, k)) :
    (files.put l bytes).locate text = .ok (path, k) := by
  obtain ⟨short, rfl, resolved⟩ := locate_ok_iff.mp located
  refine locate_ok_iff.mpr ⟨short, rfl, ?_⟩
  obtain ⟨directory, entered, last⟩ := bind_ok_iff.mp resolved
  exact bind_ok_iff.mpr ⟨directory, foldlM_enter_put notDirectory entered, last⟩

theorem read_file (located : files.locate text = .ok (path, l)) (noSlash : path.endsInSlash = false)
    (found : files.find l = .ok (some (.file bytes))) : files.read text = .ok bytes := by
  refine bind_ok_iff.mpr ⟨_, located, bind_ok_iff.mpr ⟨_, found, ?_⟩⟩
  simp only [noSlash]
  rfl

/-- What is written is put where the path leads, if a file can be there. -/
theorem write_ok (written : files.write text bytes = .ok after) :
    ∃ path l, files.locate text = .ok (path, l) ∧ path.endsInSlash = false ∧ l.isTooLong = false ∧
      files.get? l ≠ some .directory ∧ after = files.put l bytes := by
  obtain ⟨⟨path, l⟩, located, found⟩ := bind_ok_iff.mp written
  dsimp only at found
  cases slash : path.endsInSlash
  · rw [slash, if_neg (by decide)] at found
    obtain ⟨node, there, made⟩ := bind_ok_iff.mp found
    obtain ⟨short, here⟩ := find_ok_iff.mp there
    rcases node with _ | _ | _ <;> cases made
    all_goals exact ⟨path, l, located, slash, short, by simp [here], rfl⟩
  · rw [slash] at found
    cases found

/-- A file that was written is read again, and nothing else has changed. -/
theorem write_read (written : files.write text bytes = .ok after) :
    ∃ path l, files.locate text = .ok (path, l) ∧ after.locate text = .ok (path, l) ∧
      (∀ k, after.get? k = if k = l then some (.file bytes) else files.get? k) ∧
      after.read text = .ok bytes := by
  obtain ⟨path, l, located, noSlash, short, notDirectory, rfl⟩ := write_ok written
  have again : (files.put l bytes).locate text = .ok (path, l) := locate_put notDirectory located
  have placed := get?_put files (names_ne_nil notDirectory) bytes
  have found := find_ok_iff.mpr ⟨short, (placed l).trans (if_pos rfl)⟩
  exact ⟨path, l, located, again, placed, read_file again noSlash found⟩

end FileMap

/-! ## What a run comes to -/

theorem strip_again {parallel again : Bool} {file : Bytes} {s : Stripped} (stripped : strip parallel file = .ok s) :
    strip again s.bytes = .error (.removal .noMemory) := by
  obtain ⟨m, removal, decoded, required, run, rfl⟩ := strip_ok stripped
  have spelled := Module.Spells.of_decode decoded
  obtain ⟨entries, removes, -, -⟩ := Module.removeMemory_removes spelled.ordered run
  obtain ⟨clean, refused⟩ :=
    Module.removeMemory_again spelled.ordered (Module.requireClean_ok_iff.mp required) run
  exact strip_removal_error (spelled.removed removes).decode clean refused

section Runs

variable {files after : FileMap} {env : Environment} {args : List String} {i : Invocation}
  {outcome : Outcome}

theorem disk_read (path : String) : FileMap.disk.read path files = (files.read path, files) :=
  rfl

theorem disk_write (path : String) (bytes : Bytes) :
    FileMap.disk.write path bytes files =
      match files.write path bytes with
      | .error e => (.error e, files)
      | .ok after => (.ok (), after) := by
  simp only [FileMap.disk, bind, StateT.bind, get, getThe, MonadStateOf.get, StateT.get, pure]
  cases files.write path bytes <;> rfl

/-- What carrying out an invocation can come to: the message of an error, if there is one, and the files. -/
inductive Performs (files : FileMap) (i : Invocation) : Option String → FileMap → Prop
  | unreadable {e : FileError} :
    files.read i.input = .error e →
    Performs files i (some s!"failed to read {i.input}: {e.message}") files
  | refused {file : Bytes} {e : StripError} :
    files.read i.input = .ok file → strip i.parallel file = .error e →
    Performs files i (some s!"cannot remove memory from {i.input}: {e.message}") files
  | unwritable {file : Bytes} {s : Stripped} {e : FileError} :
    files.read i.input = .ok file → strip i.parallel file = .ok s →
    files.write i.output s.bytes = .error e →
    Performs files i (some s!"failed to write {i.output}: {e.message}") files
  | written {file : Bytes} {s : Stripped} {after : FileMap} :
    files.read i.input = .ok file → strip i.parallel file = .ok s →
    files.write i.output s.bytes = .ok after → Performs files i none after

theorem perform_performs (files : FileMap) (i : Invocation) :
    Performs files i (i.perform FileMap.disk files).1.2 (i.perform FileMap.disk files).2 := by
  simp only [Invocation.perform, bind, StateT.bind, pure, disk_read]
  cases read : files.read i.input with
  | error e => exact .unreadable read
  | ok file =>
      dsimp only
      cases stripped : strip i.parallel file with
      | error e => exact .refused read stripped
      | ok s =>
          dsimp only [StateT.bind]
          rw [disk_write]
          cases written : files.write i.output s.bytes with
          | error e => exact .unwritable read stripped written
          | ok after => exact .written read stripped written

/-- There is no error exactly if every step succeeds. -/
theorem Performs.eq_none_iff {message : Option String} (performs : Performs files i message after) :
    message = none ↔
      ∃ file s left, files.read i.input = .ok file ∧ strip i.parallel file = .ok s ∧
        files.write i.output s.bytes = .ok left := by
  cases performs with
  | unreadable failed =>
      refine iff_of_false nofun ?_
      rintro ⟨file, s, left, read, -, -⟩
      cases failed.symm.trans read
  | refused read failed =>
      refine iff_of_false nofun ?_
      rintro ⟨file, s, left, read', stripped, -⟩
      cases read.symm.trans read'
      cases failed.symm.trans stripped
  | unwritable read stripped failed =>
      refine iff_of_false nofun ?_
      rintro ⟨file, s, left, read', stripped', written⟩
      cases read.symm.trans read'
      cases stripped.symm.trans stripped'
      cases failed.symm.trans written
  | written read stripped written => exact iff_of_true rfl ⟨_, _, _, read, stripped, written⟩

/-- With an error, nothing was written. -/
theorem Performs.eq_of_ne_none {message : Option String} (performs : Performs files i message after)
    (failed : message ≠ none) : after = files := by
  cases performs with
  | unreadable | refused | unwritable => rfl
  | written => exact absurd rfl failed

/-- What a run can come to. -/
inductive Runs (files : FileMap) (env : Environment) (args : List String) : Outcome → FileMap → Prop
  | usage {e : UsageError} :
    parse env args = .error e → Runs files env args { status := .usage, errors := e.lines } files
  | help :
    parse env args = .ok .help → Runs files env args { status := .success, output := helpLines env } files
  | version :
    parse env args = .ok .version → Runs files env args { status := .success, output := versionLines } files
  | performed {i : Invocation} {message : Option String} {filter : LogFilter} {events : List LogEvent}
      {after : FileMap} :
    parse env args = .ok (.run i) → Performs files i message after →
    Runs files env args (outcomeOf filter events message) after

theorem runs_of_eq (ran : runOnMap files env args = (outcome, after)) :
    Runs files env args outcome after := by
  obtain ⟨rfl, rfl⟩ := Prod.ext_iff.mp ran
  unfold runOnMap run
  cases asked : parse env args with
  | error e => exact .usage asked
  | ok request =>
      cases request with
      | help => exact .help asked
      | version => exact .version asked
      | run i => exact .performed asked (perform_performs files i)

theorem code_outcomeOf_eq_zero_iff {filter : LogFilter} {events : List LogEvent} {message : Option String} :
    (outcomeOf filter events message).status.code = 0 ↔ message = none := by
  cases message with
  | none => exact iff_of_true rfl rfl
  | some _ => exact iff_of_false (nomatch ExitStatus.code_eq_zero_iff.mp ·) nofun

/-- The input was stripped, and stands where the output path leads. Every other location is as it was. -/
structure Wrote (before after : FileMap) (i : Invocation) (s : Stripped) : Prop where
  stripped : ∃ file, before.read i.input = .ok file ∧ strip i.parallel file = .ok s
  placed : ∃ path l, before.locate i.output = .ok (path, l) ∧ after.locate i.output = .ok (path, l) ∧
    ∀ k, after.get? k = if k = l then some (.file s.bytes) else before.get? k
  readable : after.read i.output = .ok s.bytes

theorem Performs.wrote (performs : Performs files i none after) : ∃ s, Wrote files after i s := by
  cases performs with
  | written read stripped written =>
      obtain ⟨path, l, located, again, placed, readable⟩ := FileMap.write_read written
      exact ⟨_, ⟨_, read, stripped⟩, ⟨path, l, located, again, placed⟩, readable⟩

/-- The run fails because the module at `path` has no memory, and leaves the files as they are. -/
def FindsNoMemory (files : FileMap) (env : Environment) (args : List String) (path : String) : Prop :=
  ∃ outcome, runOnMap files env args = (outcome, files) ∧ outcome.status.code = 1 ∧
    outcome.errors = ["Error: " ++ s!"cannot remove memory from {path}: {RemovalError.noMemory.message}"]

/-- The output cannot be stripped again. -/
theorem Wrote.findsNoMemory {s : Stripped} (wrote : Wrote files after i s) {again : Invocation}
    (asked : parse env args = .ok (.run again)) (sameFile : again.input = i.output) :
    FindsNoMemory after env args i.output := by
  obtain ⟨_, -, stripped⟩ := wrote.stripped
  have refusal : strip again.parallel s.bytes = .error (.removal .noMemory) := strip_again stripped
  have read : after.read again.input = .ok s.bytes := sameFile ▸ wrote.readable
  obtain ⟨outcome, left, ran⟩ : ∃ outcome left, runOnMap after env args = (outcome, left) := ⟨_, _, rfl⟩
  cases runs_of_eq ran with
  | usage failed => cases asked.symm.trans failed
  | help other => cases asked.symm.trans other
  | version other => cases asked.symm.trans other
  | performed asked' performs =>
      cases asked.symm.trans asked'
      cases performs with
      | unreadable failed => cases read.symm.trans failed
      | refused read' error =>
          cases read.symm.trans read'
          cases refusal.symm.trans error
          exact ⟨_, ran, rfl, by rw [← sameFile]; rfl⟩
      | unwritable read' again _ =>
          cases read.symm.trans read'
          cases refusal.symm.trans again
      | written read' again _ =>
          cases read.symm.trans read'
          cases refusal.symm.trans again

/-- A run that fails leaves the files as they were. One that succeeds without being asked for help or
for the version has written the stripped input, and that cannot be stripped again. It succeeds whenever
the input can be read and stripped and the output can be written. -/
theorem run_all_or_nothing (ran : runOnMap files env args = (outcome, after)) :
    (outcome.status.code ≠ 0 → after = files) ∧
      (outcome.status.code = 0 →
        (parse env args = .ok .help ∨ parse env args = .ok .version) ∧ after = files ∨
          ∃ i s, parse env args = .ok (.run i) ∧ Wrote files after i s ∧
            ∀ env' args' again, parse env' args' = .ok (.run again) → again.input = i.output →
              FindsNoMemory after env' args' i.output) ∧
      ∀ i, parse env args = .ok (.run i) →
        (outcome.status.code = 0 ↔
          ∃ file s left, files.read i.input = .ok file ∧ strip i.parallel file = .ok s ∧
            files.write i.output s.bytes = .ok left) := by
  cases runs_of_eq ran with
  | usage failed =>
      refine ⟨fun _ => rfl, fun code => ?_, fun i asked => ?_⟩
      · cases ExitStatus.code_eq_zero_iff.mp code
      · cases failed.symm.trans asked
  | help asked =>
      refine ⟨fun _ => rfl, fun _ => .inl ⟨.inl asked, rfl⟩, fun i other => ?_⟩
      cases asked.symm.trans other
  | version asked =>
      refine ⟨fun _ => rfl, fun _ => .inl ⟨.inr asked, rfl⟩, fun i other => ?_⟩
      cases asked.symm.trans other
  | @performed i message _ _ _ asked performs =>
      refine ⟨fun failed => ?_, fun code => ?_, fun other asked' => ?_⟩
      · exact performs.eq_of_ne_none (mt code_outcomeOf_eq_zero_iff.mpr failed)
      · obtain rfl := code_outcomeOf_eq_zero_iff.mp code
        obtain ⟨s, wrote⟩ := performs.wrote
        exact .inr ⟨i, s, asked, wrote, fun _ _ _ => wrote.findsNoMemory⟩
      · cases asked.symm.trans asked'
        exact code_outcomeOf_eq_zero_iff.trans performs.eq_none_iff

/-- A module is stripped in place, and then a second time. -/
theorem run_all_or_nothing_in_place :
    let files : FileMap := [(⟨.here, ["m.wasm"]⟩, .file (header ++ [5, 3, 1, 0, 1, 0, 2, 1, 0x61]))]
    let after : FileMap := [(⟨.here, ["m.wasm"]⟩, .file (header ++ [0, 2, 1, 0x61]))]
    (runOnMap files {} ["m.wasm", "m.wasm"]).1.status.code = 0 ∧
      (runOnMap files {} ["m.wasm", "m.wasm"]).2 = after ∧
      FindsNoMemory after {} ["--parallel", "m.wasm", "n.wasm"] "m.wasm" := by
  intro files after
  have asked : parse {} ["m.wasm", "m.wasm"] = .ok (.run ⟨"m.wasm", "m.wasm", false, false⟩) := by
    cbv
  have askedAgain : parse {} ["--parallel", "m.wasm", "n.wasm"] =
      .ok (.run ⟨"m.wasm", "n.wasm", true, false⟩) := by
    cbv
  have code : (runOnMap files {} ["m.wasm", "m.wasm"]).1.status.code = 0 := by
    cbv
  have left : (runOnMap files {} ["m.wasm", "m.wasm"]).2 = after := by
    cbv
  have ran : runOnMap files {} ["m.wasm", "m.wasm"] =
      ((runOnMap files {} ["m.wasm", "m.wasm"]).1, after) :=
    Prod.ext rfl left
  refine ⟨code, left, ?_⟩
  obtain ⟨other | other, -⟩ | ⟨i, s, asked', -, later⟩ := (run_all_or_nothing ran).2.1 code
  · cases asked.symm.trans other
  · cases asked.symm.trans other
  · cases asked.symm.trans asked'
    exact later _ _ _ askedAgain rfl

end Runs

end Memoryless.Command

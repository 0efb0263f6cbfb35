import Memoryless.Command.Run
import Memoryless.Proofs.Forms
import Memoryless.Proofs.Interleaving

/-!
# Settings

Three flags and three variables say how a run goes about its work and how much it tells of it:
`--parallel`, `-v` and `--verbose`, and the environment. What is left of a command line without them is
`withoutSettings`. Two runs that agree on this leave the same files, end with the same exit code and
print the same output and the same error; only the log can tell them apart (`run_same_but_log`).

The log is what a filter leaves of the events of the run, and the events do not depend on the settings
either (`Invocation.perform_eq`), so a filter that lets more through shows the same lines and others
between them.
-/

namespace Memoryless.Command

/-! ## What a command line says besides settings -/

/-- Is the argument one of the flags that only change how a run goes about its work? -/
def isSetting (text : String) : Bool :=
  text = "-v" || text = "--verbose" || text = "--parallel"

/-- The arguments without the settings. Behind `--` there are paths only, whatever they look like. -/
def withoutSettings : List String → List String
  | [] => []
  | text :: rest =>
    if text = "--" then text :: rest
    else if isSetting text then withoutSettings rest
    else text :: withoutSettings rest

namespace Parsing

variable {p p' q : Parsing} {progress : Progress} {text : String} {flag : Flag}

theorem checkPaths_congr (same : p'.paths = p.paths) : p'.checkPaths = p.checkPaths := by
  unfold checkPaths
  rw [same]

/-- What taking a flag can come to: a request that ends the matter, or a setting that is noted. -/
theorem flag_ok (taken : p.flag flag = .ok progress) :
    progress = .done .help ∨ progress = .done .version ∨
      flag = .parallel ∧ progress = .more { p with parallel := true } ∨
        flag = .verbose ∧ p.verbose = false ∧ progress = .more { p with verbose := true } := by
  obtain ⟨_, -, noted⟩ := bind_ok_iff.mp taken
  cases flag with
  | help => cases noted; exact .inl rfl
  | version => cases noted; exact .inr (.inl rfl)
  | parallel =>
      cases given : p.parallel <;> rw [given] at noted <;> cases noted
      exact .inr (.inr (.inl ⟨rfl, rfl⟩))
  | verbose =>
      cases given : p.verbose <;> rw [given] at noted <;> cases noted
      exact .inr (.inr (.inr ⟨rfl, rfl, rfl⟩))

/-- Of the flags in their short form only one is a setting, and it cannot be repeated. -/
theorem letters_ok {cs : List Char} (taken : p.letters cs = .ok progress) :
    progress = .done .help ∨ progress = .done .version ∨ cs = [] ∧ progress = .more p ∨
      cs = ['v'] ∧ p.verbose = false ∧ progress = .more { p with verbose := true } := by
  induction cs generalizing p with
  | nil => cases taken; exact .inr (.inr (.inl ⟨rfl, rfl⟩))
  | cons c cs ih =>
      unfold letters at taken
      cases known : Flag.ofLetter? c with
      | none => rw [known] at taken; cases taken
      | some flag =>
          rw [known] at taken
          dsimp only at taken
          have letter : flag.letter? = some c := by simpa using List.find?_some known
          cases first : p.flag flag with
          | error e => rw [first] at taken; cases taken
          | ok reached =>
              rw [first] at taken
              obtain rfl | rfl | ⟨rfl, -⟩ | ⟨rfl, fresh, rfl⟩ := flag_ok first
              · cases taken; exact .inl rfl
              · cases taken; exact .inr (.inl rfl)
              · cases letter
              · cases letter
                obtain rfl | rfl | ⟨rfl, rfl⟩ | ⟨-, again, -⟩ := ih taken
                · exact .inl rfl
                · exact .inr (.inl rfl)
                · exact .inr (.inr (.inr ⟨rfl, fresh, rfl⟩))
                · cases again

/-- In its long form a flag stands alone. -/
theorem long_ok {cs : List Char} (taken : p.long cs = .ok progress) :
    progress = .done .help ∨ progress = .done .version ∨
      ∃ q, progress = .more q ∧ q.paths = p.paths ∧ (cs = "verbose".toList ∨ cs = "parallel".toList) := by
  unfold long at taken
  dsimp only at taken
  split at taken
  · cases taken
  · rename_i flag known alone
    have name : flag.name = String.ofList (cs.takeWhile (· ≠ '=')) := by
      simpa using List.find?_some known
    have whole : cs = flag.name.toList := by
      rw [name, String.toList_ofList]
      have split : cs.takeWhile (· ≠ '=') ++ cs.dropWhile (· ≠ '=') = cs :=
        List.takeWhile_append_dropWhile
      rw [alone, List.append_nil] at split
      exact split.symm
    obtain rfl | rfl | ⟨rfl, rfl⟩ | ⟨rfl, -, rfl⟩ := flag_ok taken
    · exact .inl rfl
    · exact .inr (.inl rfl)
    · exact .inr (.inr ⟨_, rfl, rfl, .inr whole⟩)
    · exact .inr (.inr ⟨_, rfl, rfl, .inl whole⟩)
  · cases taken

/-- What taking an argument can come to. A path is taken as one whatever was taken before it. -/
inductive Takes (p : Parsing) (text : String) : Progress → Prop
  | help : Takes p text (.done .help)
  | version : Takes p text (.done .version)
  | setting {q : Parsing} : isSetting text = true → q.paths = p.paths → Takes p text (.more q)
  | path {q : Parsing} :
    isSetting text = false → (∀ p' : Parsing, p'.argument text = (p'.path text).map .more) →
    p.path text = .ok q → Takes p text (.more q)

theorem argument_takes (taken : p.argument text = .ok progress) : Takes p text progress := by
  unfold argument at taken
  split at taken
  · rename_i cs spelled
    obtain rfl | rfl | ⟨q, rfl, samePaths, name⟩ := long_ok taken
    · exact .help
    · exact .version
    · refine .setting ?_ samePaths
      rcases name with rfl | rfl
      · have whole : text = "--verbose" := String.toList_inj.mp spelled
        rw [whole]; rfl
      · have whole : text = "--parallel" := String.toList_inj.mp spelled
        rw [whole]; rfl
  · rename_i c cs _ spelled
    obtain rfl | rfl | ⟨none, -⟩ | ⟨name, -, rfl⟩ := letters_ok taken
    · exact .help
    · exact .version
    · cases none
    · cases name
      have whole : text = "-v" := String.toList_inj.mp spelled
      exact .setting (by rw [whole]; rfl) rfl
  · rename_i noLong noLetters
    obtain ⟨q, reached, rfl⟩ := map_ok_iff.mp taken
    have settingFree : isSetting text = false := by
      by_contra setting
      rw [Bool.not_eq_false, isSetting] at setting
      simp only [Bool.or_eq_true, decide_eq_true_eq] at setting
      obtain (rfl | rfl) | rfl := setting
      · exact noLetters _ _ rfl
      · exact noLong _ rfl
      · exact noLong _ rfl
    refine .path settingFree (fun p' => ?_) reached
    unfold argument
    split
    · exact absurd ‹_› (noLong _)
    · exact absurd ‹_› (noLetters _ _)
    · rfl

/-! ## All arguments -/

theorem path_ok (taken : p.path text = .ok q) (same : p'.paths = p.paths) :
    ∃ q', p'.path text = .ok q' ∧ q'.paths = q.paths := by
  unfold path at taken ⊢
  rw [same, checkPaths_congr same]
  split at taken
  · cases taken
  · rename_i room
    obtain ⟨_, checked, made⟩ := bind_ok_iff.mp taken
    cases made
    rw [if_neg room]
    exact ⟨_, bind_ok_iff.mpr ⟨_, checked, rfl⟩, rfl⟩

theorem foldlM_path_ok {texts : List String} (taken : texts.foldlM path p = .ok q)
    (same : p'.paths = p.paths) : ∃ q', texts.foldlM path p' = .ok q' ∧ q'.paths = q.paths := by
  induction texts generalizing p p' with
  | nil => cases taken; exact ⟨p', rfl, same⟩
  | cons text texts ih =>
      rw [List.foldlM_cons] at taken
      obtain ⟨middle, first, later⟩ := bind_ok_iff.mp taken
      obtain ⟨middle', first', same'⟩ := path_ok first same
      obtain ⟨q', later', sameEnd⟩ := ih later same'
      exact ⟨q', by rw [List.foldlM_cons]; exact bind_ok_iff.mpr ⟨middle', first', later'⟩, sameEnd⟩

/-- Without the settings the arguments give the same paths, whatever settings were noted before. -/
theorem arguments_more {args : List String} (taken : p.arguments args = .ok (.more q))
    (same : p'.paths = p.paths) :
    ∃ q', p'.arguments (withoutSettings args) = .ok (.more q') ∧ q'.paths = q.paths := by
  induction args generalizing p p' with
  | nil => cases taken; exact ⟨p', rfl, same⟩
  | cons text rest ih =>
      unfold arguments at taken
      unfold withoutSettings
      by_cases ends : text = "--"
      · rw [if_pos ends] at taken ⊢
        obtain ⟨_, reached, last⟩ := map_ok_iff.mp taken
        cases last
        obtain ⟨q', reached', sameEnd⟩ := foldlM_path_ok reached same
        refine ⟨q', ?_, sameEnd⟩
        rw [arguments, if_pos ends, reached']
        rfl
      · rw [if_neg ends] at taken ⊢
        split at taken
        · rename_i middle first
          cases argument_takes first with
          | setting setting samePaths =>
              rw [if_pos setting]
              exact ih taken (same.trans samePaths.symm)
          | path settingFree asPath reached =>
              obtain ⟨middle', reached', same'⟩ := path_ok reached same
              obtain ⟨q', later, sameEnd⟩ := ih taken same'
              refine ⟨q', ?_, sameEnd⟩
              rw [if_neg (by rw [settingFree]; decide), arguments, if_neg ends, asPath, reached']
              exact later
        · rename_i stopped
          exact absurd taken (stopped _)

/-- Arguments that are not taken to the end ask for help or for the version. -/
theorem arguments_done {args : List String} {request : Request}
    (taken : p.arguments args = .ok (.done request)) : request = .help ∨ request = .version := by
  induction args generalizing p with
  | nil => cases taken
  | cons text rest ih =>
      unfold arguments at taken
      split at taken
      · obtain ⟨_, -, last⟩ := map_ok_iff.mp taken
        cases last
      · split at taken
        · exact ih taken
        · cases argument_takes taken with
          | help => exact .inl rfl
          | version => exact .inr rfl

theorem finish_run {env : Environment} {i : Invocation} (finished : p.finish env = .ok (.run i)) :
    ∃ more, p.paths = i.input :: i.output :: more := by
  obtain ⟨_, -, later⟩ := bind_ok_iff.mp finished
  obtain ⟨_, -, last⟩ := bind_ok_iff.mp later
  split at last
  · rename_i input output more paths
    cases last
    exact ⟨more, paths⟩
  · cases last
  · cases last

end Parsing

/-- What is left of a command line without the settings says which file is read and which is written. -/
theorem parse_run {env : Environment} {args : List String} {i : Invocation}
    (asked : parse env args = .ok (.run i)) :
    ∃ p more, Parsing.arguments {} (withoutSettings args) = .ok (.more p) ∧
      p.paths = i.input :: i.output :: more := by
  obtain ⟨progress, taken, last⟩ := bind_ok_iff.mp asked
  cases progress with
  | done request =>
      cases last
      obtain other | other := Parsing.arguments_done taken <;> cases other
  | more q =>
      obtain ⟨more, paths⟩ := Parsing.finish_run last
      have fresh : ({} : Parsing).paths = ({} : Parsing).paths := rfl
      obtain ⟨p, reached, same⟩ := Parsing.arguments_more taken fresh
      exact ⟨p, more, reached, same.trans paths⟩

/-! ## What a run says and does -/

theorem strip_parallel (parallel : Bool) (file : Bytes) : strip parallel file = strip false file := by
  cases parallel with
  | false => rfl
  | true => simp only [strip, Module.requireClean_parallel]

/-- What there is to say and to do depends on the paths only. -/
theorem Invocation.perform_eq {m : Type → Type} [Monad m] (disk : Disk m) {i i' : Invocation}
    (input : i'.input = i.input) (output : i'.output = i.output) : i'.perform disk = i.perform disk := by
  have same : strip i'.parallel = strip i.parallel := by
    funext file
    rw [strip_parallel i'.parallel, strip_parallel i.parallel]
  unfold perform
  rw [input, output, same]

namespace LogFilter

/-- The filter that is a level and nothing else. -/
def plain (level : LogLevel) : LogFilter :=
  [⟨[], .always, level⟩]

/-- A level in letters or digits is read as a filter that is plain. -/
theorem ofText?_level {text : String} {level : LogLevel} (ascii : ∀ c ∈ text.toList, c.isAlphanum = true)
    (named : LogLevel.ofText? text.toList = some level) : ofText? text = some (plain level) := by
  have outside : ∀ sign : Char, sign.isAlphanum = false → ∀ c ∈ text.toList, c ≠ sign := by
    intro sign noLetter c member same
    rw [← same, ascii c member] at noLetter
    cases noLetter
  have alone : Text.pieces ',' text.toList = [text.toList] :=
    Text.pieces_of_not_mem fun member => outside ',' rfl _ member rfl
  have nonempty : text.toList ≠ [] := by
    intro none
    rw [none] at named
    cases named
  have directive : LogDirective.ofText? text.toList = some ⟨[], .always, level⟩ := by
    obtain ⟨c, cs, spelled⟩ := List.exists_cons_of_ne_nil nonempty
    have first : c.isAlphanum = true := ascii c (spelled ▸ List.mem_cons_self)
    have noBlanks : text.toList.takeWhile Text.isBlank = [] := by
      rw [spelled, List.takeWhile_cons_of_neg]
      rw [Text.isBlank_of_isAlphanum first]
      decide
    have opens : text.toList.head?.any LogDirective.isOpening = true := by
      rw [spelled]
      simp [LogDirective.isOpening, Text.isAlphanumeric_of_isAlphanum first]
    have target : (text.toList.takeWhile fun c => c ≠ '=' && c ≠ '[') = text.toList := by
      refine List.takeWhile_eq_self_iff.mpr fun c member => ?_
      simp [outside '=' rfl c member, outside '[' rfl c member]
    unfold LogDirective.ofText?
    dsimp only
    rw [noBlanks, List.length_nil, List.drop_zero, opens, target, List.drop_length]
    simp only [named]
    rfl
  unfold ofText?
  have kept : ([text.toList].filter fun piece => !piece.isEmpty) = [text.toList] := by
    simp [nonempty]
  rw [alone, kept]
  simp only [List.mapM_cons, directive, List.mapM_nil]
  rfl

theorem level_plain (l : LogLevel) (e : LogEvent) : (plain l).level e = l := by
  rfl

/-- A filter that allows each event at least as much shows at least as many. -/
theorem shown_sublist {filter other : LogFilter}
    (more : ∀ e, (filter.level e).rank ≤ (other.level e).rank) (events : List LogEvent) :
    (filter.shown events).Sublist (other.shown events) := by
  unfold shown
  refine List.monotone_filter_right events fun e visible => ?_
  rw [decide_eq_true_eq] at visible ⊢
  exact Nat.le_trans visible (more e)

end LogFilter

/-- Two runs cannot be told apart but by their logs. -/
structure SameButLog (one two : Outcome × FileMap) : Prop where
  code : one.1.status.code = two.1.status.code
  output : one.1.output = two.1.output
  errors : one.1.errors = two.1.errors
  files : one.2 = two.2

section Runs

variable {files : FileMap} {env env' : Environment} {args args' : List String} {i i' : Invocation}

theorem runOnMap_of_run (asked : parse env args = .ok (.run i)) :
    runOnMap files env args =
      (outcomeOf (.ofEnvironment env i.verbose) (i.perform FileMap.disk files).1.1
        (i.perform FileMap.disk files).1.2, (i.perform FileMap.disk files).2) := by
  unfold runOnMap run
  rw [asked]
  rfl

theorem log_outcomeOf (filter : LogFilter) (events : List LogEvent) (message : Option String) :
    (outcomeOf filter events message).log = filter.shown events := by
  cases message <;> rfl

/-- The filter shows in the log only. -/
theorem sameButLog_outcomeOf (filter other : LogFilter) (events : List LogEvent)
    (message : Option String) (after : FileMap) :
    SameButLog (outcomeOf filter events message, after) (outcomeOf other events message, after) := by
  cases message <;> exact ⟨rfl, rfl, rfl, rfl⟩

/-- Two invocations that differ in settings and in the environment only end in the same way. Of their
logs, if both filters are plain levels, the one with the lower level is part of the other. -/
theorem run_same_but_log (asked : parse env args = .ok (.run i))
    (asked' : parse env' args' = .ok (.run i')) (same : withoutSettings args = withoutSettings args') :
    SameButLog (runOnMap files env args) (runOnMap files env' args') ∧
      ∀ l l', LogFilter.ofEnvironment env i.verbose = .plain l →
        LogFilter.ofEnvironment env' i'.verbose = .plain l' → l.rank ≤ l'.rank →
        ((runOnMap files env args).1.log.map LogEvent.line).Sublist
          ((runOnMap files env' args').1.log.map LogEvent.line) := by
  obtain ⟨p, more, taken, paths⟩ := parse_run asked
  obtain ⟨p', more', taken', paths'⟩ := parse_run asked'
  rw [← same, taken] at taken'
  cases taken'
  obtain ⟨input, later⟩ := List.cons.inj (paths'.symm.trans paths)
  obtain ⟨output, -⟩ := List.cons.inj later
  rw [runOnMap_of_run asked, runOnMap_of_run asked', Invocation.perform_eq FileMap.disk input output]
  refine ⟨sameButLog_outcomeOf .., fun l l' lower higher le => ?_⟩
  rw [log_outcomeOf, log_outcomeOf, lower, higher]
  refine (LogFilter.shown_sublist (fun e => ?_) _).map _
  rw [LogFilter.level_plain, LogFilter.level_plain]
  exact le

/-- The flags stand elsewhere, or the environment says what they say; one run shows less than the other. -/
theorem run_same_but_log_settings :
    let files : FileMap := [(⟨.here, ["m.wasm"]⟩,
      .file (header ++ [5, 3, 1, 0, 1, 7, 5, 1, 1, 0x6d, 2, 0, 0, 2, 1, 0x61]))]
    let env : Environment := { parallel := some "true", log := some "info" }
    let env' : Environment := { commonLog := some "TRACE" }
    let args := ["m.wasm", "-v", "--", "-v"]
    let args' := ["--parallel", "m.wasm", "--", "-v"]
    withoutSettings args = withoutSettings args' ∧
      SameButLog (runOnMap files env args) (runOnMap files env' args') ∧
      (runOnMap files env args).1.log.map LogEvent.line =
        ["INFO read module path=m.wasm bytes=24", "INFO wrote module path=-v bytes=12 saved=12"] ∧
      ((runOnMap files env args).1.log.map LogEvent.line).Sublist
        ((runOnMap files env' args').1.log.map LogEvent.line) := by
  intro files env env' args args'
  have asked : parse env args = .ok (.run ⟨"m.wasm", "-v", true, true⟩) := by
    cbv
  have asked' : parse env' args' = .ok (.run ⟨"m.wasm", "-v", true, false⟩) := by
    cbv
  have same : withoutSettings args = withoutSettings args' := by
    cbv
  have lower : LogFilter.ofEnvironment env true = .plain .info := by
    have read : LogFilter.ofText? "info" = some (.plain .info) :=
      LogFilter.ofText?_level (List.all_eq_true.mp (by cbv)) (by cbv)
    simp [LogFilter.ofEnvironment, env, read]
  have higher : LogFilter.ofEnvironment env' false = .plain .trace := by
    have read : LogFilter.ofText? "TRACE" = some (.plain .trace) :=
      LogFilter.ofText?_level (List.all_eq_true.mp (by cbv)) (by cbv)
    simp [LogFilter.ofEnvironment, env', read]
  have shown : (runOnMap files env args).1.log.map LogEvent.line =
      ["INFO read module path=m.wasm bytes=24", "INFO wrote module path=-v bytes=12 saved=12"] := by
    rw [runOnMap_of_run asked, lower]
    cbv
  have ends : SameButLog (runOnMap files env args) (runOnMap files env' args') ∧ _ :=
    run_same_but_log asked asked' same
  obtain ⟨alike, sublist⟩ := ends
  exact ⟨same, alike, shown, sublist _ _ lower higher (by decide)⟩

end Runs

end Memoryless.Command

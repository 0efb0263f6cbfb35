import Mathlib
import Memoryless.Stripping

/-!
# Bodies inspected at the same time

Workers take the bodies of a code section one by one and are done with them in any order. What a worker
finds in a body is stored under the index of the body. `Inspection` is the state of this, and a `Step`
of it is what one worker does next.

The results that have arrived, together with those that are still to come, are one for each body
(`Inspection.Accounts`), so the slots do not show the order in which they were filled.
`Module.scan_in_any_order` says that the verdict is the one of an inspection that stops at the first
body that is not clean.
-/

namespace Memoryless

/-- Some bodies wait, some are looked into, and what was found in the others is stored. -/
structure Inspection where
  waiting : List (Nat × FunctionBody)
  begun : List (Nat × FunctionBody)
  slots : Array (Option (Option (FunctionBody × Finding)))

namespace Inspection

/-- What arrives from the worker that looks into a body. -/
def result (part : Nat × FunctionBody) : Nat × Option (FunctionBody × Finding) :=
  (part.1, part.2.finding?)

/-- No worker has begun yet. -/
def start (bodies : List FunctionBody) : Inspection where
  waiting := bodies.mapIdx fun i body => (i, body)
  begun := []
  slots := Array.replicate bodies.length none

/-- A worker takes any of the bodies that wait, or is done with any of those that were taken. -/
inductive Step : Inspection → Inspection → Prop
  | take (front back : List (Nat × FunctionBody)) {begun : List (Nat × FunctionBody)}
      {part : Nat × FunctionBody} {slots : Array (Option (Option (FunctionBody × Finding)))} :
    Step ⟨front ++ part :: back, begun, slots⟩ ⟨front ++ back, part :: begun, slots⟩
  | finish (front back : List (Nat × FunctionBody)) {waiting : List (Nat × FunctionBody)}
      {part : Nat × FunctionBody} {slots : Array (Option (Option (FunctionBody × Finding)))} :
    Step ⟨waiting, front ++ part :: back, slots⟩
      ⟨waiting, front ++ back, store slots (result part)⟩

/-- What the workers can have come to after some steps. -/
abbrev Reach : Inspection → Inspection → Prop :=
  Relation.ReflTransGen Step

/-- Every body was looked into. -/
def Finished (s : Inspection) : Prop :=
  s.waiting = [] ∧ s.begun = []

/-- The verdict on what is stored: the first thing that was found, in the order of the slots. -/
def verdict (s : Inspection) (payload : Bytes) : Verdict :=
  .ofFinding payload ((s.slots.toList.filterMap id).findSome? id)

variable {bodies : List FunctionBody} {s t : Inspection}

/-! ## Every order comes to an end -/

/-- How many steps are left. -/
def remaining (s : Inspection) : Nat :=
  2 * s.waiting.length + s.begun.length

theorem Step.remaining_lt (step : Step s t) : t.remaining < s.remaining := by
  cases step with
  | take =>
      simp only [remaining, List.length_append, List.length_cons]
      omega
  | finish =>
      simp only [remaining, List.length_append, List.length_cons]
      omega

/-- As long as a body is left, some worker can do something. -/
theorem exists_step (unfinished : ¬s.Finished) : ∃ t, Step s t := by
  obtain ⟨waiting, begun, slots⟩ := s
  cases waiting with
  | cons part waiting => exact ⟨_, .take [] waiting⟩
  | nil =>
      cases begun with
      | cons part begun => exact ⟨_, .finish [] begun⟩
      | nil => exact absurd ⟨rfl, rfl⟩ unfinished

theorem exists_finished (s : Inspection) : ∃ t, Reach s t ∧ t.Finished := by
  induction length : s.remaining using Nat.strongRecOn generalizing s with
  | ind n ih =>
      by_cases finished : s.Finished
      · exact ⟨s, .refl, finished⟩
      · obtain ⟨middle, step⟩ := exists_step finished
        obtain ⟨t, reached, finished⟩ := ih _ (length ▸ step.remaining_lt) middle rfl
        exact ⟨t, .head step reached, finished⟩

/-! ## Every order fills the same slots -/

/-- The results that arrived in some order, and those that are still to come, are one for each body. -/
def Accounts (bodies : List FunctionBody) (s : Inspection) : Prop :=
  ∃ arrivals, s.slots = arrivals.foldl store (Array.replicate bodies.length none) ∧
    (arrivals ++ (s.begun ++ s.waiting).map result).Perm
      (bodies.mapIdx fun i body => (i, body.finding?))

theorem accounts_start (bodies : List FunctionBody) : Accounts bodies (start bodies) := by
  refine ⟨[], rfl, .of_eq ?_⟩
  simp [start, result, List.mapIdx_eq_zipIdx_map]

theorem Accounts.step (accounts : Accounts bodies s) (step : Step s t) : Accounts bodies t := by
  rcases accounts with ⟨arrivals, filled, each⟩
  cases step with
  | @take front back begun part =>
      refine ⟨arrivals, filled, .trans (.append_left arrivals (.map result ?_)) each⟩
      rw [List.cons_append, ← List.append_assoc, ← List.append_assoc]
      exact List.perm_middle.symm
  | @finish front back waiting part =>
      refine ⟨arrivals ++ [result part], ?_, .trans ?_ each⟩
      · rw [List.foldl_append, ← filled]
        rfl
      · rw [List.append_assoc, List.append_assoc front, List.append_assoc front, List.cons_append]
        exact .append_left arrivals (List.perm_middle.map result).symm

theorem Accounts.reach (accounts : Accounts bodies s) (reached : Reach s t) : Accounts bodies t := by
  induction reached with
  | refl => exact accounts
  | tail _ step ih => exact ih.step step

/-- Once every body was looked into, its finding stands in its place. -/
theorem Accounts.findings_eq (accounts : Accounts bodies s) (finished : s.Finished) :
    s.slots.toList.filterMap id = bodies.map FunctionBody.finding? := by
  rcases accounts with ⟨arrivals, filled, each⟩
  rw [finished.1, finished.2, List.append_nil, List.map_nil, List.append_nil] at each
  have indices : (bodies.mapIdx fun i body => (i, body.finding?)).map Prod.fst =
      List.range bodies.length := by
    rw [List.mapIdx_eq_zipIdx_map, List.map_map, List.range_eq_range']
    exact List.zipIdx_map_snd 0 bodies
  have distinct : (arrivals.map Prod.fst).Nodup := by
    rw [(each.map Prod.fst).nodup_iff, indices]
    exact List.nodup_range
  rw [filled]
  exact (collate_perm each distinct).trans (collate_mapIdx FunctionBody.finding? bodies)

end Inspection

namespace Module

variable {m : Module} {payload : Bytes} {bodies : List FunctionBody} {s : Inspection}

theorem scan_of_bodies (cut : m.bodies = .ok (payload, bodies)) :
    m.scan = .ofFinding payload (bodies.findSome? FunctionBody.finding?) := by
  unfold scan
  rw [cut]
  rfl

theorem verdict_of_reach (cut : m.bodies = .ok (payload, bodies))
    (reached : Inspection.Reach (.start bodies) s) (finished : s.Finished) :
    s.verdict payload = m.scan := by
  have accounts := (Inspection.accounts_start bodies).reach reached
  rw [Inspection.verdict, accounts.findings_eq finished, List.findSome?_map, scan_of_bodies cut]
  rfl

theorem requireClean_parallel (m : Module) : m.requireClean true = m.requireClean false := by
  simp only [requireClean, if_true, scanParallel_eq_scan, Bool.false_eq_true, if_false]

end Module

/-- It makes no difference in which order workers take the bodies and are done with them. Whatever they
have come to, they can bring it to an end, and at every end the verdict is the one of an inspection that
stops at the first body that is not clean. So a module has the same verdict either way, and a file is
stripped in the same way or refused for the same reason. -/
theorem Module.scan_in_any_order (m : Module) :
    (∀ payload bodies, m.bodies = .ok (payload, bodies) →
      ∀ s, Inspection.Reach (.start bodies) s →
        (s.Finished → s.verdict payload = m.scan) ∧ ∃ t, Inspection.Reach s t ∧ t.Finished) ∧
      m.scanParallel = m.scan ∧ ∀ file, strip true file = strip false file := by
  refine ⟨fun payload bodies cut s reached => ⟨?_, s.exists_finished⟩, m.scanParallel_eq_scan, ?_⟩
  · exact Module.verdict_of_reach cut reached
  · intro file
    simp only [strip, Module.requireClean_parallel]

/-- The use of memory in the second body is found before the first body, which cannot be read. -/
theorem Module.scan_in_any_order_late :
    ∃ (first second : FunctionBody) (s : Inspection),
      Module.bodies ⟨[⟨.code, [2, 2, 0, 0xff, 5, 0, 0x28, 2, 0, 0x0b]⟩]⟩ =
        .ok ([2, 2, 0, 0xff, 5, 0, 0x28, 2, 0, 0x0b], [first, second]) ∧
      second.finding? = some (second, .access .i32Load [0x28, 2, 0, 0x0b]) ∧
      Inspection.Reach (.start [first, second]) s ∧ s.Finished ∧
      s.slots = store (store #[none, none] (1, second.finding?)) (0, first.finding?) ∧
      s.verdict [2, 2, 0, 0xff, 5, 0, 0x28, 2, 0, 0x0b] = .error (.unknownOpcode ⟨0xff, none⟩ 0 3) := by
  let first : FunctionBody := ⟨0, [0, 0xff], [5, 0, 0x28, 2, 0, 0x0b]⟩
  let second : FunctionBody := ⟨1, [0, 0x28, 2, 0, 0x0b], []⟩
  have cut : Module.bodies ⟨[⟨.code, [2, 2, 0, 0xff, 5, 0, 0x28, 2, 0, 0x0b]⟩]⟩ =
      .ok ([2, 2, 0, 0xff, 5, 0, 0x28, 2, 0, 0x0b], [first, second]) := by cbv
  have refused : Module.scan ⟨[⟨.code, [2, 2, 0, 0xff, 5, 0, 0x28, 2, 0, 0x0b]⟩]⟩ =
      .error (.unknownOpcode ⟨0xff, none⟩ 0 3) := by cbv
  have reached : Inspection.Reach (.start [first, second])
      ⟨[], [], store (store #[none, none] (1, second.finding?)) (0, first.finding?)⟩ :=
    .head (.take [] [(1, second)]) <|
      .head (.take [] []) <|
        .head (.finish [] [(0, first)]) <|
          .head (.finish [] []) .refl
  have same := (((Module.scan_in_any_order _).1 _ _ cut _ reached).1 ⟨rfl, rfl⟩).trans refused
  exact ⟨first, second, _, cut, by cbv, reached, ⟨rfl, rfl⟩, rfl, same⟩

end Memoryless

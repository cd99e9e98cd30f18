import Palimpsest.Proofs.Machine.Table
import Palimpsest.Proofs.Thread.Failure

/-!
# The history of a machine

Every machine has come from one without threads: threads have joined, threads have
made steps, steps have failed. A history tells which notices have been sent out on the
way, each with the key of the thread that it is about. Counting them gives the number
of steps and of threads, and keys that are never given out twice make the notice of an
end the last one of its thread.
-/

namespace Palimpsest

/-- Whether a thread has ended with an event. -/
def Event.isEnded : Event → Bool
  | .state _ => false
  | .ended _ => true

namespace Thread

theorem key_notice (thread : Thread) (program : Program) :
    (thread.notice program).key = thread.key := by
  unfold notice
  split <;> rfl

theorem isEnded_notice (thread : Thread) (program : Program) :
    (thread.notice program).event.isEnded = !thread.isRunning := by
  unfold notice isRunning
  split
  · rename_i pointed
    rw [pointed]
    rfl
  · rename_i unpointed
    rw [unpointed]
    rfl

end Thread

namespace Machine

/-! ## Keys -/

section Keys

variable {machine next : Machine}

theorem keys_rota (machine : Machine) :
    machine.rota.keys =
      (machine.threads.map Thread.key).drop machine.cursor ++
        (machine.threads.map Thread.key).take machine.cursor := by
  simp [Rota.keys, rota, List.map_drop, List.map_take]

theorem Orderly.distinct_threads (orderly : machine.Orderly) :
    (machine.threads.map Thread.key).Nodup := by
  have distinct := orderly.distinct
  rw [keys_rota] at distinct
  rw [← List.take_append_drop machine.cursor (machine.threads.map Thread.key)]
  exact List.nodup_append_comm.mp distinct

theorem change_joined (stands : machine.CursorStands) (name : String) (location : Location)
    (memory : List Text) :
    Change machine (machine.joined (machine.newcomer name location memory)) none :=
  .join _ rfl (stands.rota_joined _).1 rfl

theorem change_afterStep {thread : Thread} {scene : Scene} {monitor : Monitor}
    (under : machine.threads[machine.cursor]? = some thread)
    (stepped : Scene.step ⟨thread, machine.program, monitor⟩ = .ok () scene) :
    Change machine (machine.afterStep scene.thread scene.program) (some thread.key) := by
  obtain ⟨rest, first⟩ := waiting_eq_cons under
  exact .serve first (Scene.key_of_step_eq_ok stepped) (rota_afterStep _ _ under).1 rfl

/-- A step that fails ends nothing and starts nothing. -/
theorem kept_of_step_eq_error {monitor told : Monitor} {failure : Failure}
    (failed : step (machine, monitor) = .error failure (next, told)) :
    next.threads.map Thread.key = machine.threads.map Thread.key ∧
      next.cursor = machine.cursor ∧ next.stepCount = machine.stepCount ∧
      next.nextKey = machine.nextKey := by
  obtain ⟨thread, scene, under, sceneFailed, rfl, _⟩ := step_eq_error failed
  have same := Scene.key_leftBy_step ⟨thread, machine.program, monitor⟩
  rw [sceneFailed] at same
  have same : scene.thread.key = thread.key := same
  obtain ⟨served, rest, threads_eq, cursor_eq⟩ := exists_threads_eq under
  refine ⟨?_, rfl, rfl, rfl⟩
  simp [threads_eq, cursor_eq, same]

/-- Being in order is a matter of keys. -/
theorem Orderly.of_keys (orderly : machine.Orderly)
    (keys_eq : next.threads.map Thread.key = machine.threads.map Thread.key)
    (cursor_eq : next.cursor = machine.cursor) (count : next.nextKey = machine.nextKey) :
    next.Orderly := by
  have rota_eq : next.rota.keys = machine.rota.keys := by
    rw [keys_rota, keys_rota, keys_eq, cursor_eq]
  have length_eq : next.threads.length = machine.threads.length := by
    simpa using congrArg List.length keys_eq
  constructor
  · rcases orderly.stands with inside | ⟨empty, start⟩
    · left
      rwa [cursor_eq, length_eq]
    · right
      rw [empty, List.length_nil, List.length_eq_zero_iff] at length_eq
      exact ⟨length_eq, cursor_eq.trans start⟩
  · exact rota_eq ▸ orderly.distinct
  · rw [rota_eq, count]
    exact orderly.numbered

/-- The key has been given out, and its thread is not live any more. -/
structure Spent (machine : Machine) (key : ThreadKey) : Prop where
  given : ∃ number : Nat, key = .number number ∧ number < machine.nextKey
  absent : key ∉ machine.rota.keys

/-- A key that is spent does not come up again. -/
theorem Spent.of_change {key : ThreadKey} {label : Option ThreadKey} (spent : machine.Spent key)
    (change : Change machine next label) : next.Spent key := by
  obtain ⟨number, key_eq, given⟩ := spent.given
  refine ⟨⟨number, key_eq, Nat.lt_of_lt_of_le given change.nextKey_le⟩, fun live => ?_⟩
  rcases change.mem_keys live with earlier | ⟨fresh, _⟩
  · exact spent.absent earlier
  · rw [key_eq, ThreadKey.number.injEq] at fresh
    exact Nat.ne_of_lt given (Int.ofNat.inj fresh)

/-- The key of a thread that has ended with its step is spent. -/
theorem Orderly.spent_afterStep {thread stepped : Thread} (orderly : machine.Orderly)
    (under : machine.threads[machine.cursor]? = some thread) (same : stepped.key = thread.key)
    (ended : stepped.isRunning = false) (program : Program) :
    (machine.afterStep stepped program).Spent thread.key := by
  obtain ⟨rest, first⟩ := waiting_eq_cons under
  obtain ⟨others, keys_eq, keys_serve⟩ := Rota.keys_serve first same
  have distinct := orderly.distinct
  rw [keys_eq, List.nodup_cons] at distinct
  constructor
  · exact orderly.numbered thread.key (by simp [keys_eq])
  · rw [(rota_afterStep stepped program under).1, keys_serve, ended]
    simpa using distinct.1

end Keys

/-! ## Histories -/

/-- The machine has come from one without threads on the given program, and these
notices have been sent out since then. -/
inductive History (program : Program) : Machine → List Notice → Prop
  /-- Nothing has happened yet. -/
  | fresh : History program (.ofProgram program) []
  /-- A thread joins and is told of. -/
  | join {machine : Machine} {notices : List Notice} (history : History program machine notices)
      (name : String) (location : Location) (memory : List Text) :
      History program (machine.joined (machine.newcomer name location memory))
        (notices ++ [(machine.newcomer name location memory).notice machine.program])
  /-- The thread under the cursor makes a step and is told of. -/
  | step {machine : Machine} {notices : List Notice} {monitor : Monitor} {thread : Thread}
      {scene : Scene} (history : History program machine notices)
      (under : machine.threads[machine.cursor]? = some thread)
      (running : thread.isRunning = true)
      (stepped : Scene.step ⟨thread, machine.program, monitor⟩ = .ok () scene) :
      History program (machine.afterStep scene.thread scene.program)
        (notices ++ [scene.thread.notice scene.program])
  /-- A step fails, and nobody is told. -/
  | fail {machine next : Machine} {notices : List Notice} {monitor told : Monitor}
      {failure : Failure} (history : History program machine notices)
      (failed : Machine.step (machine, monitor) = .error failure (next, told)) :
      History program next notices
  /-- The view is redrawn. -/
  | redraw {machine : Machine} {notices : List Notice}
      (history : History program machine notices) :
      History program { machine with program := machine.program.updateView.1 } notices

namespace History

variable {program : Program} {machine : Machine} {notices : List Notice}

theorem orderly (history : History program machine notices) : machine.Orderly := by
  induction history with
  | fresh => exact orderly_ofProgram program
  | join _ name location memory inductionHypothesis =>
      have stands := inductionHypothesis.stands
      exact inductionHypothesis.of_change (change_joined stands name location memory)
        (stands.rota_joined _).2
  | step _ under running stepped inductionHypothesis =>
      exact inductionHypothesis.of_change (change_afterStep under stepped)
        (rota_afterStep _ _ under).2
  | fail _ failed inductionHypothesis =>
      obtain ⟨keys_eq, cursor_eq, _, count⟩ := kept_of_step_eq_error failed
      exact inductionHypothesis.of_keys keys_eq cursor_eq count
  | redraw _ inductionHypothesis => exact inductionHypothesis.of_keys rfl rfl rfl

/-- There is one notice for every step and one for every thread that has joined. -/
theorem length_eq (history : History program machine notices) :
    notices.length = machine.stepCount + machine.nextKey := by
  induction history with
  | fresh => rfl
  | join _ name location memory inductionHypothesis =>
      rw [List.length_append, inductionHypothesis]
      rfl
  | step _ under running stepped inductionHypothesis =>
      rw [List.length_append, inductionHypothesis]
      exact Nat.add_right_comm _ _ _
  | fail _ failed inductionHypothesis =>
      obtain ⟨_, _, steps, count⟩ := kept_of_step_eq_error failed
      rw [inductionHypothesis, steps, count]
  | redraw _ inductionHypothesis => exact inductionHypothesis

/-- The threads that have joined are those that have ended and those that are live. -/
theorem count_ended (history : History program machine notices) :
    notices.countP (fun notice => notice.event.isEnded) + machine.threads.length =
      machine.nextKey := by
  induction history with
  | fresh => rfl
  | join _ name location memory inductionHypothesis =>
      rw [List.countP_append, List.countP_singleton, Thread.isEnded_notice]
      simp only [newcomer, joined, Thread.isRunning, Option.isSome_some, List.length_append,
        List.length_singleton]
      rw [← inductionHypothesis]
      rfl
  | @step machine notices monitor thread scene _ under running stepped inductionHypothesis =>
      obtain ⟨served, rest, threads_eq, cursor_eq⟩ := exists_threads_eq under
      have kept : (machine.afterStep scene.thread scene.program).nextKey = machine.nextKey := rfl
      rw [List.countP_append, List.countP_singleton, Thread.isEnded_notice,
        threads_afterStep threads_eq cursor_eq, kept, ← inductionHypothesis, threads_eq]
      cases scene.thread.isRunning with
      | true => simp
      | false => simp; omega
  | fail _ failed inductionHypothesis =>
      obtain ⟨keys_eq, _, _, count⟩ := kept_of_step_eq_error failed
      rw [count, ← inductionHypothesis]
      simpa using congrArg List.length keys_eq
  | redraw _ inductionHypothesis => exact inductionHypothesis

/-- The keys of threads that have ended are spent. -/
theorem spent (history : History program machine notices) {notice : Notice}
    (member : notice ∈ notices) (ended : notice.event.isEnded = true) :
    machine.Spent notice.key := by
  induction history with
  | fresh => cases member
  | join history name location memory inductionHypothesis =>
      rcases List.mem_append.mp member with earlier | last
      · exact (inductionHypothesis earlier).of_change
          (change_joined history.orderly.stands name location memory)
      · rw [List.mem_singleton.mp last, Thread.isEnded_notice] at ended
        cases ended
  | step history under running stepped inductionHypothesis =>
      rcases List.mem_append.mp member with earlier | last
      · exact (inductionHypothesis earlier).of_change (change_afterStep under stepped)
      · have same := Scene.key_of_step_eq_ok stepped
        rw [List.mem_singleton.mp last, Thread.isEnded_notice, Bool.not_eq_true'] at ended
        rw [List.mem_singleton.mp last, Thread.key_notice, same]
        exact history.orderly.spent_afterStep under same ended _
  | fail _ failed inductionHypothesis =>
      obtain ⟨keys_eq, cursor_eq, _, count⟩ := kept_of_step_eq_error failed
      obtain ⟨given, absent⟩ := inductionHypothesis member
      constructor
      · rw [count]
        exact given
      · rw [keys_rota, keys_eq, cursor_eq, ← keys_rota]
        exact absent
  | redraw _ inductionHypothesis =>
      obtain ⟨given, absent⟩ := inductionHypothesis member
      exact ⟨given, absent⟩

/-- After the notice of an end there is no notice of the same thread. -/
theorem ended_last (history : History program machine notices) :
    notices.Pairwise fun earlier later =>
      earlier.event.isEnded = true → later.key ≠ earlier.key := by
  induction history with
  | fresh => exact .nil
  | @join machine notices history name location memory inductionHypothesis =>
      refine List.pairwise_append.mpr ⟨inductionHypothesis, List.pairwise_singleton _ _, ?_⟩
      intro earlier member later last ended same
      obtain ⟨number, key_eq, given⟩ := (history.spent member ended).given
      rw [List.mem_singleton.mp last, Thread.key_notice, key_eq, newcomer,
        ThreadKey.number.injEq] at same
      exact Nat.ne_of_gt given (Int.ofNat.inj same)
  | step history under running stepped inductionHypothesis =>
      refine List.pairwise_append.mpr ⟨inductionHypothesis, List.pairwise_singleton _ _, ?_⟩
      intro earlier member later last ended same
      rw [List.mem_singleton.mp last, Thread.key_notice, Scene.key_of_step_eq_ok stepped] at same
      apply (history.spent member ended).absent
      exact mem_keys_rota_iff.mpr ⟨_, List.mem_of_getElem? under, same⟩
  | fail _ failed inductionHypothesis => exact inductionHypothesis
  | redraw _ inductionHypothesis => exact inductionHypothesis

end History

/-! ## Recorders -/

/-- The recorder shows the threads of the machine, and its trace, if it keeps one, is
the history of the machine. -/
structure RecordedBy (full : Prop) (program : Program) (machine : Machine)
    (recorder : Recorder) : Prop where
  table : ShowsAll full recorder.table machine.threads
  trace : ∃ notices, History program machine notices ∧
    recorder.trace = if recorder.keepsTrace then notices.map Notice.event else []

/-- The first observer is a recorder that has followed the machine. -/
def Followed (full : Prop) (program : Program) (keepsTrace : Bool) (machine : Machine)
    (observers : List Observer) : Prop :=
  ∃ recorder others, observers = .recorder recorder :: others ∧
    recorder.keepsTrace = keepsTrace ∧ machine.RecordedBy full program recorder

variable {full : Prop} {program : Program} {keepsTrace : Bool} {machine next : Machine}
  {recorder : Recorder}

/-- A notice that a history goes on with goes on with the trace. -/
theorem RecordedBy.noted (recorded : machine.RecordedBy full program recorder) {notice : Notice}
    (shown : ShowsAll full (recorder.tableAfter notice) next.threads)
    (goesOn : ∀ notices, History program machine notices →
      History program next (notices ++ [notice])) :
    next.RecordedBy full program (recorder.noted notice) := by
  obtain ⟨notices, history, trace_eq⟩ := recorded.trace
  refine ⟨shown, notices ++ [notice], goesOn notices history, ?_⟩
  unfold Recorder.trace Recorder.noted at *
  cases keeps : recorder.keepsTrace with
  | true => simpa [keeps] using trace_eq
  | false => simpa [keeps] using trace_eq

namespace Followed

variable {observers : List Observer} {monitor told : Monitor}

theorem fresh (full : Prop) (program : Program) (keepsTrace : Bool) (others : List Observer) :
    (ofProgram program).Followed full program keepsTrace
      (.recorder (.empty keepsTrace) :: others) :=
  ⟨.empty keepsTrace, others, rfl, rfl, .nil, [], .fresh, by simp [Recorder.trace, Recorder.empty]⟩

theorem of_startThread_eq_ok (followed : machine.Followed full program keepsTrace
    monitor.observers) {name : String} {location : Location} {memory : List Text}
    (joined : startThread name location memory (machine, monitor) = .ok () (next, told)) :
    next.Followed full program keepsTrace told.observers := by
  obtain ⟨recorder, others, front, keeps, recorded⟩ := followed
  obtain ⟨rfl, told_eq⟩ := startThread_eq_ok joined
  obtain ⟨_, history, _⟩ := recorded.trace
  have absent : ThreadKey.number machine.nextKey ∉ machine.threads.map Thread.key := by
    intro member
    apply history.orderly.fresh (Nat.le_refl _)
    exact mem_keys_rota_iff.mpr (List.mem_map.mp member)
  rw [told_eq, front]
  refine ⟨_, _, rfl, keeps, recorded.noted (recorded.table.join absent rfl _) ?_⟩
  intro notices history
  exact history.join name location memory

theorem of_step_eq_ok (followed : machine.Followed full program keepsTrace monitor.observers)
    (stepped : step (machine, monitor) = .ok () (next, told)) :
    next.Followed full program keepsTrace told.observers := by
  rcases step_eq_ok stepped with ⟨idle, rfl⟩ | ⟨thread, scene, under, sceneStepped, rfl⟩
  · rw [step_of_idle idle] at stepped
    cases stepped
    exact followed
  · obtain ⟨recorder, others, front, keeps, recorded⟩ := followed
    obtain ⟨_, history, _⟩ := recorded.trace
    obtain ⟨served, rest, threads_eq, cursor_eq⟩ := exists_threads_eq under
    have aligned := recorded.table
    have distinct := history.orderly.distinct_threads
    rw [threads_eq] at aligned distinct
    obtain ⟨_, _, _, _, _, shown, _⟩ := aligned.exists_entry
    have running : thread.isRunning = true := Option.isSome_of_eq_some shown.pointer
    have shownThen := aligned.serve distinct (Scene.key_of_step_eq_ok sceneStepped) scene.program
    rw [← threads_afterStep threads_eq cursor_eq scene.thread scene.program] at shownThen
    rw [observers_of_step_eq_ok under sceneStepped stepped,
      Scene.observers_of_step_eq_ok running sceneStepped]
    refine ⟨_, _, congrArg (List.map _) front, keeps, recorded.noted shownThen ?_⟩
    intro notices history
    exact history.step under running sceneStepped

/-- A step that fails is not told of, so it may leave a memory that is not shown. -/
theorem of_step_eq_error
    (followed : machine.Followed full program keepsTrace monitor.observers) {failure : Failure}
    (unseen : ¬full) (moderate : machine.program.grid.Moderate)
    (moderateAfter : next.program.grid.Moderate)
    (failed : step (machine, monitor) = .error failure (next, told)) :
    next.Followed full program keepsTrace told.observers := by
  obtain ⟨recorder, others, front, keeps, aligned, notices, history, trace_eq⟩ := followed
  obtain ⟨thread, taken, under, _, next_eq, heard⟩ :=
    abandoned_of_step_eq_error moderate moderateAfter failed
  obtain ⟨served, rest, threads_eq, cursor_eq⟩ := exists_threads_eq under
  have threadsNext : next.threads =
      served ++ { thread with memory := thread.memory.drop taken } :: rest := by
    rw [next_eq]
    simp [abandoned, threads_eq, cursor_eq]
  rw [threads_eq] at aligned
  refine ⟨recorder, others, heard.trans front, keeps, ?_, notices, history.fail failed, trace_eq⟩
  rw [threadsNext]
  exact aligned.forget unseen _

theorem redraw (followed : machine.Followed full program keepsTrace observers) :
    ({ machine with program := machine.program.updateView.1 } : Machine).Followed full program
      keepsTrace observers := by
  obtain ⟨recorder, others, front, keeps, aligned, notices, history, trace_eq⟩ := followed
  exact ⟨recorder, others, front, keeps, aligned, notices, history.redraw, trace_eq⟩

end Followed

end Machine

end Palimpsest

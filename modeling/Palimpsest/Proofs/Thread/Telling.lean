import Palimpsest.Proofs.Thread.Step

/-!
# What observers are told

A thread that joins and a step that succeeds send out one notice each: that of the
thread as it is then, on the program as it is then. Every observer takes it, each in
its own way and whatever the others do. So what becomes of the observers of a run is
known from the notices alone, and no notice makes one observer into another.
-/

namespace Palimpsest

/-- The recorder after a notice that can be written down. -/
def Recorder.noted (recorder : Recorder) (notice : Notice) : Recorder :=
  { recorder with
    table := recorder.tableAfter notice
    history :=
      if recorder.keepsTrace then notice.event :: recorder.history else recorder.history }

/-- An observer that has been told something. -/
def Observer.told (notice : Notice) : Observer → Observer
  | .recorder kept => .recorder (kept.noted notice)
  | .reporter level => .reporter level
  | .silent => .silent

theorem Recorder.noted_of_note_eq_ok {recorder updated : Recorder} {notice : Notice}
    (taken : note notice recorder = .ok () updated) : updated = recorder.noted notice := by
  unfold note at taken
  unfold noted
  dsimp only at taken
  split at taken
  · rename_i keeps
    split at taken
    · cases taken
      rw [if_pos keeps]
    · cases taken
  · rename_i keeps
    cases taken
    rw [if_neg keeps]

namespace Monitor

variable {notice : Notice}

theorem told_of_tellOne_eq_ok {observer told : Observer} {journal written : Journal}
    (taken : tellOne notice observer journal = .ok () (told, written)) :
    told = observer.told notice := by
  cases observer with
  | recorder recorder =>
      cases noted : Recorder.note notice recorder with
      | ok value updated =>
          simp only [tellOne, noted] at taken
          cases taken
          exact congrArg Observer.recorder (Recorder.noted_of_note_eq_ok noted)
      | error failure updated =>
          simp only [tellOne, noted] at taken
          cases taken
  | reporter level =>
      unfold tellOne at taken
      dsimp only at taken
      split at taken
      · cases taken
        rfl
      · cases taken
  | silent =>
      cases taken
      rfl

theorem told_of_tellAll_eq_ok {observers told : List Observer} {journal written : Journal}
    (taken : tellAll notice journal observers = .ok () (told, written)) :
    told = observers.map (Observer.told notice) := by
  induction observers generalizing told journal written with
  | nil =>
      cases taken
      rfl
  | cons observer rest inductionHypothesis =>
      rw [tellAll] at taken
      split at taken
      · cases taken
      · rename_i first
        split at taken
        · cases taken
        · rename_i others
          cases taken
          rw [List.map_cons, told_of_tellOne_eq_ok first, inductionHypothesis others]

theorem observers_of_tell_eq_ok {monitor told : Monitor}
    (taken : tell notice monitor = .ok () told) :
    told.observers = monitor.observers.map (Observer.told notice) := by
  unfold tell at taken
  split at taken
  · rename_i all
    cases taken
    exact told_of_tellAll_eq_ok all
  · cases taken

end Monitor

theorem Scene.observers_of_tell_eq_ok {scene next : Scene} (taken : tell scene = .ok () next) :
    next.monitor.observers =
      scene.monitor.observers.map (.told (scene.thread.notice scene.program)) := by
  unfold tell at taken
  split at taken
  · rename_i told
    cases taken
    exact Monitor.observers_of_tell_eq_ok told
  · cases taken

/-- A step of a running thread that succeeds tells of the thread as it is then. -/
theorem Scene.observers_of_step_eq_ok [Cluster.Splitter] {scene next : Scene}
    (running : scene.thread.isRunning = true) (stepped : step scene = .ok () next) :
    next.monitor.observers =
      scene.monitor.observers.map (.told (next.thread.notice next.program)) := by
  obtain ⟨location, pointed⟩ := Option.isSome_iff_exists.mp running
  obtain ⟨target, frame, performed, thread_eq, program_eq⟩ := step_eq_ok pointed stepped
  by_cases fits : location.fits = true
  · obtain ⟨monitor, step_eq, observers_eq⟩ := step_of_perform_ok pointed fits performed
    rw [stepped] at step_eq
    have told := observers_of_tell_eq_ok step_eq.symm
    rwa [observers_eq, ← thread_eq, ← program_eq] at told
  · rw [step_of_not_fits pointed (by simpa using fits)] at stepped
    cases stepped

namespace Machine

variable {machine next : Machine} {monitor told : Monitor}

/-- A step of a machine tells what the step of its thread tells. -/
theorem observers_of_step_eq_ok [Cluster.Splitter] {thread : Thread} {scene : Scene}
    (under : machine.threads[machine.cursor]? = some thread)
    (sceneStepped : Scene.step ⟨thread, machine.program, monitor⟩ = .ok () scene)
    (stepped : step (machine, monitor) = .ok () (next, told)) :
    told.observers = scene.monitor.observers := by
  simp only [step, under, sceneStepped] at stepped
  split at stepped
  · cases stepped
    rfl
  · cases stepped
    rfl

/-- A thread that joins is told of. -/
theorem startThread_eq_ok {name : String} {location : Location} {memory : List Text}
    (joined : startThread name location memory (machine, monitor) = .ok () (next, told)) :
    next =
        { machine with
          threads := machine.threads ++ [⟨name, .number machine.nextKey, some location, memory⟩]
          nextKey := machine.nextKey + 1 } ∧
      told.observers = monitor.observers.map (.told (Thread.notice
        ⟨name, .number machine.nextKey, some location, memory⟩ machine.program)) := by
  unfold startThread at joined
  dsimp only at joined
  split at joined
  · cases joined
  · rename_i heard
    split at joined
    · cases joined
      exact ⟨rfl, Scene.observers_of_tell_eq_ok heard⟩
    · cases joined

end Machine

/-! ## Kinds of observers -/

/-- An observer without what it has been told. This decides which notices it
refuses. -/
def Observer.kind : Observer → Observer
  | .recorder kept => .recorder (.empty kept.keepsTrace)
  | .reporter level => .reporter level
  | .silent => .silent

namespace Monitor

variable (notice : Notice)

theorem kind_leftBy_tellOne (observer : Observer) (journal : Journal) :
    (leftBy (tellOne notice observer journal)).1.kind = observer.kind := by
  cases observer with
  | recorder kept =>
      simp only [tellOne, Recorder.note]
      split
      · rename_i noted
        split at noted
        · split at noted
          · cases noted
            rfl
          · cases noted
        · cases noted
          rfl
      · rename_i noted
        split at noted
        · split at noted
          · cases noted
          · cases noted
            rfl
        · cases noted
  | reporter level =>
      unfold tellOne
      dsimp only
      split <;> rfl
  | silent => rfl

theorem kinds_leftBy_tellAll (observers : List Observer) (journal : Journal) :
    (leftBy (tellAll notice journal observers)).1.map Observer.kind =
      observers.map Observer.kind := by
  induction observers generalizing journal with
  | nil => rfl
  | cons observer rest inductionHypothesis =>
      have first := kind_leftBy_tellOne notice observer journal
      unfold tellAll
      generalize tellOne notice observer journal = result at first ⊢
      cases result with
      | error failure told => exact congrArg (· :: rest.map Observer.kind) first
      | ok value told =>
          have later := inductionHypothesis told.2
          dsimp only
          generalize tellAll notice told.2 rest = laterResult at later ⊢
          cases laterResult with
          | error failure others => exact congrArg₂ List.cons first later
          | ok value others => exact congrArg₂ List.cons first later

/-- Telling makes no observer another kind of observer. -/
theorem kinds_leftBy_tell (monitor : Monitor) :
    (leftBy (tell notice monitor)).observers.map Observer.kind =
      monitor.observers.map Observer.kind := by
  have kept := kinds_leftBy_tellAll notice monitor.observers monitor.journal
  unfold tell
  generalize tellAll notice monitor.journal monitor.observers = result at kept ⊢
  cases result with
  | ok value told => exact kept
  | error failure told => exact kept

end Monitor

namespace Scene

theorem kinds_leftBy_tell (scene : Scene) :
    (leftBy (tell scene)).monitor.observers.map Observer.kind =
      scene.monitor.observers.map Observer.kind := by
  have kept := Monitor.kinds_leftBy_tell (scene.thread.notice scene.program) scene.monitor
  unfold tell
  generalize Monitor.tell (scene.thread.notice scene.program) scene.monitor = result at kept ⊢
  cases result with
  | ok value told => exact kept
  | error failure told => exact kept

theorem kinds_leftBy_step [Cluster.Splitter] (scene : Scene) :
    (leftBy (step scene)).monitor.observers.map Observer.kind =
      scene.monitor.observers.map Observer.kind := by
  cases running : scene.thread.pointer with
  | none =>
      rw [step_of_ended running]
      rfl
  | some location =>
      by_cases fits : location.fits = true
      · cases performed : Frame.perform (scene.program.grid.readWord location)
            (scene.frame location) with
        | error failure frame =>
            rw [step_of_perform_error running fits performed]
            rfl
        | ok target frame =>
            obtain ⟨monitor, step_eq, observers_eq⟩ := step_of_perform_ok running fits performed
            rw [step_eq, kinds_leftBy_tell, observers_eq]
      · rw [step_of_not_fits running (by simpa using fits)]
        rfl

end Scene

namespace Machine

/-- The action makes no observer another kind of observer. -/
def KeepsKinds {α : Type} (action : Action α) : Prop :=
  ∀ state, (leftBy (action state)).2.observers.map Observer.kind =
    state.2.observers.map Observer.kind

namespace KeepsKinds

theorem step [Cluster.Splitter] : KeepsKinds step := by
  rintro ⟨machine, monitor⟩
  cases under : machine.threads[machine.cursor]? with
  | none =>
      rw [step_of_idle under]
      rfl
  | some thread =>
      have kept := Scene.kinds_leftBy_step ⟨thread, machine.program, monitor⟩
      cases stepped : Scene.step ⟨thread, machine.program, monitor⟩ with
      | error failure scene =>
          rw [stepped] at kept
          rw [step_of_scene_error under stepped]
          exact kept
      | ok value scene =>
          rw [stepped] at kept
          obtain ⟨told, step_eq⟩ := step_of_scene_ok under stepped
          have observers_eq := observers_of_step_eq_ok under stepped step_eq
          rw [step_eq]
          exact (congrArg _ observers_eq).trans kept

theorem startThread (name : String) (location : Location) (memory : List Text) :
    KeepsKinds (startThread name location memory) := by
  rintro ⟨machine, monitor⟩
  have kept := Scene.kinds_leftBy_tell
    ⟨⟨name, .number machine.nextKey, some location, memory⟩, machine.program, monitor⟩
  unfold Machine.startThread
  dsimp only
  generalize Scene.tell ⟨⟨name, .number machine.nextKey, some location, memory⟩,
    machine.program, monitor⟩ = result at kept ⊢
  cases result with
  | error failure scene => exact kept
  | ok value scene =>
      dsimp only
      split <;> exact kept

theorem startMain : KeepsKinds startMain := by
  intro state
  change (leftBy (start mainName state.1.program.entry [] state)).2.observers.map _ = _
  cases state.1.program.entry with
  | none => rfl
  | some location =>
      have kept := startThread mainName location [] state
      unfold Machine.start
      cases result : Machine.startThread mainName location [] state with
      | ok value left =>
          rw [result] at kept
          rw [leftBy_bind_of_ok result]
          exact kept
      | error failure left =>
          rw [result] at kept
          rw [leftBy_bind_of_error result]
          exact kept

end KeepsKinds

end Machine

end Palimpsest

import Palimpsest.Proofs.Thread.Agreement

/-!
# Machines that listeners cannot part

On alike programs threads make the same steps, but listeners can still part two
runs: a listener that keeps a trace fails where a place is too long to be written
down. Here the listeners of both runs refuse the same notices. They may have been
told different things before, and the journals may differ; the first of them, a
recorder, is the same on both sides. Then machines have the same outcomes, failures
included, on grids of every extent. What the programs have in common is a parameter,
so that they may be equal or only alike.
-/

namespace Palimpsest

/-! ## Listeners -/

/-- The same recorder first, and then observers of the same kinds. -/
inductive Kindred : List Observer → List Observer → Prop
  | intro (recorder : Recorder) {observers others : List Observer}
      (kinds : observers.map Observer.kind = others.map Observer.kind) :
      Kindred (.recorder recorder :: observers) (.recorder recorder :: others)

namespace Monitor

variable {monitor other : Monitor}

theorem recorder_eq_of_kindred (kindred : Kindred monitor.observers other.observers) :
    monitor.recorder = other.recorder := by
  unfold recorder
  generalize monitor.observers = observers at kindred
  generalize other.observers = others at kindred
  cases kindred with
  | intro recorder kin => rfl

/-- A recorder does not see the journal. -/
theorem sameOutcome_tellOne_recorder (notice : Notice) (kept : Recorder)
    (journal otherJournal : Journal) :
    SameOutcome Eq (fun told otherTold => ∃ noted : Recorder, told.1 = .recorder noted ∧
        otherTold.1 = .recorder noted)
      (tellOne notice (.recorder kept) journal) (tellOne notice (.recorder kept) otherJournal) := by
  cases taken : Recorder.note notice kept with
  | ok value noted =>
      simp only [tellOne, taken]
      exact .ok rfl ⟨noted, rfl, rfl⟩
  | error failure noted =>
      simp only [tellOne, taken]
      exact .error failure ⟨noted, rfl, rfl⟩

/-- Whether an observer takes a notice is seen from its kind. -/
def refuses (notice : Notice) : Observer → Bool
  | .recorder kept => kept.keepsTrace && !notice.event.fits
  | .reporter _ => !notice.event.fits
  | .silent => false

theorem refuses_kind (notice : Notice) (observer : Observer) :
    refuses notice observer.kind = refuses notice observer := by
  cases observer with
  | recorder kept => rfl
  | reporter level => rfl
  | silent => rfl

theorem tellOne_cases (notice : Notice) (observer : Observer) (journal : Journal) :
    (refuses notice observer = false ∧ ∃ told, tellOne notice observer journal = .ok () told) ∨
      refuses notice observer = true ∧
        ∃ told, tellOne notice observer journal = .error .overlong told := by
  cases observer with
  | recorder kept =>
      cases keeps : kept.keepsTrace <;> cases fits : notice.event.fits <;>
        simp [refuses, tellOne, Recorder.note, keeps, fits]
  | reporter level =>
      cases fits : notice.event.fits <;> simp [refuses, tellOne, fits]
  | silent => simp [refuses, tellOne]

theorem sameOutcome_tellOne (notice : Notice) {observer other : Observer}
    (kinds : observer.kind = other.kind) (journal otherJournal : Journal) :
    SameOutcome Eq (fun told otherTold => told.1.kind = otherTold.1.kind)
      (tellOne notice observer journal) (tellOne notice other otherJournal) := by
  have refusal : refuses notice observer = refuses notice other := by
    rw [← refuses_kind, kinds, refuses_kind]
  have kept := kind_leftBy_tellOne notice observer journal
  have otherKept := kind_leftBy_tellOne notice other otherJournal
  rcases tellOne_cases notice observer journal with
    ⟨takes, told, told_eq⟩ | ⟨refuses, told, told_eq⟩
  · rcases tellOne_cases notice other otherJournal with
      ⟨_, otherTold, otherTold_eq⟩ | ⟨otherRefuses, _, _⟩
    · rw [told_eq] at kept ⊢
      rw [otherTold_eq] at otherKept ⊢
      exact .ok rfl ((kept.trans kinds).trans otherKept.symm)
    · rw [← refusal, takes] at otherRefuses
      cases otherRefuses
  · rcases tellOne_cases notice other otherJournal with
      ⟨otherTakes, _, _⟩ | ⟨_, otherTold, otherTold_eq⟩
    · rw [← refusal, refuses] at otherTakes
      cases otherTakes
    · rw [told_eq] at kept ⊢
      rw [otherTold_eq] at otherKept ⊢
      exact .error _ ((kept.trans kinds).trans otherKept.symm)

theorem sameOutcome_tellAll (notice : Notice) {observers others : List Observer}
    (kinds : observers.map Observer.kind = others.map Observer.kind)
    (journal otherJournal : Journal) :
    SameOutcome Eq (fun told otherTold => told.1.map Observer.kind = otherTold.1.map Observer.kind)
      (tellAll notice journal observers) (tellAll notice otherJournal others) := by
  induction observers generalizing others journal otherJournal with
  | nil =>
      cases others with
      | nil => exact .ok rfl rfl
      | cons other otherRest => cases kinds
  | cons observer rest inductionHypothesis =>
      cases others with
      | nil => cases kinds
      | cons other otherRest =>
          rcases List.cons.inj kinds with ⟨first, later⟩
          have same := sameOutcome_tellOne notice first journal otherJournal
          unfold tellAll
          generalize tellOne notice observer journal = result at same ⊢
          generalize tellOne notice other otherJournal = otherResult at same ⊢
          cases same with
          | error failure told => exact .error failure (congrArg₂ List.cons told later)
          | @ok _ _ told otherTold agreed toldKinds =>
              have sameLater := inductionHypothesis later told.2 otherTold.2
              dsimp only
              generalize tellAll notice told.2 rest = laterResult at sameLater ⊢
              generalize tellAll notice otherTold.2 otherRest = otherLaterResult at sameLater ⊢
              cases sameLater with
              | error failure laterKinds =>
                  exact .error failure (congrArg₂ List.cons toldKinds laterKinds)
              | ok _ laterKinds => exact .ok rfl (congrArg₂ List.cons toldKinds laterKinds)

/-- Kindred observers take a notice alike and stay kindred. -/
theorem sameOutcome_tell (notice : Notice) (kindred : Kindred monitor.observers other.observers) :
    SameOutcome Eq (fun told otherTold => Kindred told.observers otherTold.observers)
      (tell notice monitor) (tell notice other) := by
  unfold tell
  generalize monitor.observers = observers at kindred ⊢
  generalize other.observers = others at kindred ⊢
  cases kindred with
  | @intro recorder observers others kinds =>
      have same := sameOutcome_tellOne_recorder notice recorder monitor.journal other.journal
      unfold tellAll
      generalize tellOne notice (.recorder recorder) monitor.journal = result at same ⊢
      generalize tellOne notice (.recorder recorder) other.journal = otherResult at same ⊢
      cases same with
      | @error failure left otherLeft kept =>
          rcases kept with ⟨kept, left_eq, other_eq⟩
          dsimp only
          rw [left_eq, other_eq]
          exact .error failure (.intro kept kinds)
      | @ok _ _ told otherTold agreed kept =>
          rcases kept with ⟨kept, told_eq, other_eq⟩
          have sameLater := sameOutcome_tellAll notice kinds told.2 otherTold.2
          dsimp only
          rw [told_eq, other_eq]
          generalize tellAll notice told.2 observers = laterResult at sameLater ⊢
          generalize tellAll notice otherTold.2 others = otherLaterResult at sameLater ⊢
          cases sameLater with
          | error failure laterKinds => exact .error failure (.intro kept laterKinds)
          | ok _ laterKinds => exact .ok rfl (.intro kept laterKinds)

end Monitor

/-! ## Programs -/

/-- Frames with one pointer and one memory, on programs that have something in
common. -/
structure Frame.Bound (same : Program → Program → Prop) (frame other : Frame) : Prop where
  program : same frame.program other.program
  pointer : frame.pointer = other.pointer
  memory : frame.memory = other.memory

/-- What two programs may have in common so that neither an instruction nor a
redrawn view can part them. -/
structure Program.Bond (same : Program → Program → Prop) : Prop where
  refl : ∀ program, same program program
  alike : ∀ {program other}, same program other → program.Alike other
  performed : ∀ {program other} (word : Word) (pointer : Location) (memory : List Text),
    same program other →
      SameOutcome Eq (Frame.Bound same) (Frame.perform word ⟨program, pointer, memory, []⟩)
        (Frame.perform word ⟨other, pointer, memory, []⟩)
  redrawn : ∀ {program other}, same program other →
    same program.updateView.1 other.updateView.1

namespace Program.Bond

/-- Equal programs behave equally. -/
theorem ofEq : Program.Bond Eq where
  refl _ := rfl
  alike := by
    rintro program _ rfl
    exact .refl program
  performed := by
    rintro program _ word pointer memory rfl
    cases Frame.perform word ⟨program, pointer, memory, []⟩ with
    | ok target frame => exact .ok rfl ⟨rfl, rfl, rfl⟩
    | error failure frame => exact .error failure ⟨rfl, rfl, rfl⟩
  redrawn := by
    rintro program _ rfl
    rfl

/-- Alike programs cannot be told apart by instructions. -/
theorem ofAlike : Program.Bond Program.Alike where
  refl := .refl
  alike same := same
  performed := by
    intro program other word pointer memory same
    have frames : Frame.Alike ⟨program, pointer, memory, []⟩ ⟨other, pointer, memory, []⟩ :=
      ⟨same, rfl, rfl⟩
    apply (Frame.sameOutcome_perform word frames).mono
    intro frame otherFrame alike
    exact ⟨alike.program, alike.pointer, alike.memory⟩
  redrawn same := ⟨same.grid, same.entry⟩

end Program.Bond

variable {same : Program → Program → Prop}

/-! ## Threads -/

/-- One thread, on programs that have something in common and before kindred
observers. -/
structure Scene.Twin (same : Program → Program → Prop) (scene other : Scene) : Prop where
  thread : scene.thread = other.thread
  program : same scene.program other.program
  observers : Kindred scene.monitor.observers other.monitor.observers

namespace Scene

variable {scene other : Scene}

theorem sameOutcome_tell (bond : Program.Bond same) (twin : scene.Twin same other) :
    SameOutcome Eq (Twin same) (tell scene) (tell other) := by
  have sameTold := Monitor.sameOutcome_tell (scene.thread.notice scene.program) twin.observers
  unfold tell
  rw [← twin.thread, ← Thread.notice_eq _ (bond.alike twin.program)]
  generalize Monitor.tell (scene.thread.notice scene.program) scene.monitor = result
    at sameTold ⊢
  generalize Monitor.tell (scene.thread.notice scene.program) other.monitor = otherResult
    at sameTold ⊢
  cases sameTold with
  | ok agreed kindred => exact .ok rfl ⟨rfl, twin.program, kindred⟩
  | error failure kindred => exact .error failure ⟨rfl, twin.program, kindred⟩

/-- Twin scenes make the same step. -/
theorem Twin.sameOutcome_step (twin : scene.Twin same other) (bond : Program.Bond same) :
    SameOutcome Eq (Twin same) (step scene) (step other) := by
  cases running : scene.thread.pointer with
  | none =>
      have otherRunning : other.thread.pointer = none := twin.thread ▸ running
      rw [step_of_ended running, step_of_ended otherRunning]
      exact .ok rfl twin
  | some location =>
      have otherRunning : other.thread.pointer = some location := twin.thread ▸ running
      by_cases fits : location.fits = true
      · have words : other.program.grid.readWord location =
            scene.program.grid.readWord location := by
          rw [(bond.alike twin.program).grid]
        have frames : other.frame location =
            ⟨other.program, location, scene.thread.memory, []⟩ := by
          rw [twin.thread]
          rfl
        have samePerformed := bond.performed (scene.program.grid.readWord location) location
          scene.thread.memory twin.program
        generalize performed : Frame.perform (scene.program.grid.readWord location)
          ⟨scene.program, location, scene.thread.memory, []⟩ = result at samePerformed
        generalize otherPerformed : Frame.perform (scene.program.grid.readWord location)
          ⟨other.program, location, scene.thread.memory, []⟩ = otherResult at samePerformed
        rw [← words, ← frames] at otherPerformed
        cases samePerformed with
        | error failure bound =>
            rw [step_of_perform_error running fits performed,
              step_of_perform_error otherRunning fits otherPerformed, twin.thread]
            refine .error _ ⟨?_, bound.program, twin.observers⟩
            simp only [leave, bound.pointer, bound.memory]
        | @ok target _ frame otherFrame agreed bound =>
            subst agreed
            obtain ⟨monitor, step_eq, observers_eq⟩ := step_of_perform_ok running fits performed
            obtain ⟨otherMonitor, otherStep_eq, otherObservers_eq⟩ :=
              step_of_perform_ok otherRunning fits otherPerformed
            rw [step_eq, otherStep_eq]
            apply sameOutcome_tell bond
            refine ⟨?_, bound.program, ?_⟩
            · simp only [twin.thread, bound.memory]
            · simp only [observers_eq, otherObservers_eq]
              exact twin.observers
      · have overlong : location.fits = false := by simpa using fits
        rw [step_of_not_fits running overlong, step_of_not_fits otherRunning overlong]
        exact .error _ twin

end Scene

/-! ## Machines -/

namespace Machine

/-- The same threads, on programs that have something in common. -/
structure Twin (same : Program → Program → Prop) (machine other : Machine) : Prop where
  program : same machine.program other.program
  threads : machine.threads = other.threads
  cursor : machine.cursor = other.cursor
  stepCount : machine.stepCount = other.stepCount
  nextKey : machine.nextKey = other.nextKey

/-- Twin machines before kindred observers. -/
def TwinHeard (same : Program → Program → Prop) (state other : Machine × Monitor) : Prop :=
  state.1.Twin same other.1 ∧ Kindred state.2.observers other.2.observers

variable {machine other : Machine}

theorem Twin.refl (bond : Program.Bond same) (machine : Machine) : machine.Twin same machine :=
  ⟨bond.refl _, rfl, rfl, rfl, rfl⟩

theorem Twin.alike (twin : machine.Twin same other) (bond : Program.Bond same) :
    machine.Alike other :=
  ⟨bond.alike twin.program, twin.threads, twin.cursor, twin.stepCount, twin.nextKey⟩

/-- On equal programs twins are equal. -/
theorem Twin.eq (twin : machine.Twin Eq other) : machine = other := by
  rcases machine with ⟨program, threads, cursor, stepCount, nextKey⟩
  rcases twin with ⟨rfl, rfl, rfl, rfl, rfl⟩
  rfl

variable {monitor otherMonitor : Monitor}

/-- Twin machines make the same step. -/
theorem TwinHeard.sameOutcome_step (bond : Program.Bond same)
    (twin : TwinHeard same (machine, monitor) (other, otherMonitor)) :
    SameOutcome Eq (TwinHeard same) (step (machine, monitor)) (step (other, otherMonitor)) := by
  obtain ⟨twin, kindred⟩ :
      machine.Twin same other ∧ Kindred monitor.observers otherMonitor.observers := twin
  cases under : machine.threads[machine.cursor]? with
  | none =>
      have otherUnder : other.threads[other.cursor]? = none := by
        rw [← twin.threads, ← twin.cursor, under]
      rw [step_of_idle under, step_of_idle otherUnder]
      exact .ok rfl ⟨twin, kindred⟩
  | some thread =>
      have otherUnder : other.threads[other.cursor]? = some thread := by
        rw [← twin.threads, ← twin.cursor, under]
      have scenes : Scene.Twin same ⟨thread, machine.program, monitor⟩
          ⟨thread, other.program, otherMonitor⟩ :=
        ⟨rfl, twin.program, kindred⟩
      have sameStep := scenes.sameOutcome_step bond
      generalize stepped : Scene.step ⟨thread, machine.program, monitor⟩ = result at sameStep
      generalize otherStepped : Scene.step ⟨thread, other.program, otherMonitor⟩ = otherResult
        at sameStep
      cases sameStep with
      | error failure left =>
          rw [step_of_scene_error under stepped, step_of_scene_error otherUnder otherStepped]
          refine .error failure
            ⟨⟨left.program, ?_, twin.cursor, twin.stepCount, twin.nextKey⟩, left.observers⟩
          simp only [twin.threads, twin.cursor, left.thread]
      | ok agreed left =>
          obtain ⟨told, step_eq⟩ := step_of_scene_ok under stepped
          obtain ⟨otherTold, otherStep_eq⟩ := step_of_scene_ok otherUnder otherStepped
          have observers := left.observers
          rw [← observers_of_step_eq_ok under stepped step_eq,
            ← observers_of_step_eq_ok otherUnder otherStepped otherStep_eq] at observers
          rw [step_eq, otherStep_eq, left.thread]
          refine .ok rfl ⟨?_, observers⟩
          unfold Machine.afterStep
          rw [twin.threads, twin.cursor]
          exact ⟨left.program, rfl, rfl, congrArg (· + 1) twin.stepCount, twin.nextKey⟩

/-- Threads join twin machines alike. -/
theorem TwinHeard.sameOutcome_startThread (bond : Program.Bond same)
    (twin : TwinHeard same (machine, monitor) (other, otherMonitor)) (name : String)
    (location : Location) (memory : List Text) :
    SameOutcome Eq (TwinHeard same) (startThread name location memory (machine, monitor))
      (startThread name location memory (other, otherMonitor)) := by
  obtain ⟨twin, kindred⟩ :
      machine.Twin same other ∧ Kindred monitor.observers otherMonitor.observers := twin
  have scenes : Scene.Twin same
      ⟨⟨name, .number machine.nextKey, some location, memory⟩, machine.program, monitor⟩
      ⟨⟨name, .number other.nextKey, some location, memory⟩, other.program, otherMonitor⟩ :=
    ⟨by rw [twin.nextKey], twin.program, kindred⟩
  have sameTold := Scene.sameOutcome_tell bond scenes
  unfold startThread
  dsimp only
  generalize Scene.tell ⟨⟨name, .number machine.nextKey, some location, memory⟩,
    machine.program, monitor⟩ = result at sameTold ⊢
  generalize Scene.tell ⟨⟨name, .number other.nextKey, some location, memory⟩,
    other.program, otherMonitor⟩ = otherResult at sameTold ⊢
  cases sameTold with
  | error failure left => exact .error failure ⟨twin, left.observers⟩
  | ok agreed left =>
      have joined : Twin same
          { machine with
            threads := machine.threads ++ [⟨name, .number machine.nextKey, some location, memory⟩]
            nextKey := machine.nextKey + 1 }
          { other with
            threads := other.threads ++ [⟨name, .number other.nextKey, some location, memory⟩]
            nextKey := other.nextKey + 1 } := by
        refine ⟨twin.program, ?_, twin.cursor, twin.stepCount, ?_⟩
        · simp only [twin.threads, twin.nextKey]
        · simp only [twin.nextKey]
      dsimp only
      split
      · exact .ok rfl ⟨joined, left.observers⟩
      · exact .error _ ⟨joined, left.observers⟩

theorem TwinHeard.sameOutcome_startMain (bond : Program.Bond same)
    (twin : TwinHeard same (machine, monitor) (other, otherMonitor)) :
    SameOutcome Eq (TwinHeard same) (startMain (machine, monitor))
      (startMain (other, otherMonitor)) := by
  change SameOutcome Eq (TwinHeard same)
    (start mainName machine.program.entry [] (machine, monitor))
    (start mainName other.program.entry [] (other, otherMonitor))
  rw [← (bond.alike twin.1.program).entry]
  cases machine.program.entry with
  | none => exact .ok rfl twin
  | some entry =>
      apply (twin.sameOutcome_startThread bond mainName entry []).bind
      rintro _ _ state otherState rfl stateTwin _
      exact .ok rfl stateTwin

end Machine

end Palimpsest

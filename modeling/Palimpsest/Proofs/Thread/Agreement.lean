import Palimpsest.Proofs.Thread.Telling

/-!
# Agreement

Two programs are alike when they have one grid and one entry point; their views
and update modes may differ. No instruction can tell alike programs apart, so
threads and machines on them go through the same steps, whoever listens. On
moderate grids no listener can fail, and this is all that listeners could do to
a run. Listeners of alike runs are told the same, so what they have in common at
the beginning, and do not lose by being told the same, they always have in common.
-/

namespace Palimpsest

/-! ## Outcomes -/

/-- Both results are successes whose values agree, or the same failure, and what
they leave behind is alike. -/
inductive SameOutcome {ε σ α β : Type} (agree : α → β → Prop) (alike : σ → σ → Prop) :
    EStateM.Result ε σ α → EStateM.Result ε σ β → Prop
  | ok {value : α} {otherValue : β} {left other : σ} (agreed : agree value otherValue)
      (leftAlike : alike left other) :
      SameOutcome agree alike (.ok value left) (.ok otherValue other)
  | error (failure : ε) {left other : σ} (leftAlike : alike left other) :
      SameOutcome agree alike (.error failure left) (.error failure other)

namespace SameOutcome

variable {ε σ α β γ δ : Type} {agree : α → β → Prop} {agreeNext : γ → δ → Prop}
  {alike : σ → σ → Prop}

theorem leftBy {result : EStateM.Result ε σ α} {other : EStateM.Result ε σ β}
    (same : SameOutcome agree alike result other) :
    alike (leftBy result) (Palimpsest.leftBy other) := by
  cases same with
  | ok agreed leftAlike => exact leftAlike
  | error failure leftAlike => exact leftAlike

theorem mono {alikeThen : σ → σ → Prop} {result : EStateM.Result ε σ α}
    {other : EStateM.Result ε σ β} (same : SameOutcome agree alike result other)
    (weaken : ∀ {left other : σ}, alike left other → alikeThen left other) :
    SameOutcome agree alikeThen result other := by
  cases same with
  | ok agreed leftAlike => exact .ok agreed (weaken leftAlike)
  | error failure leftAlike => exact .error failure (weaken leftAlike)

/-- What is left behind may be found alike in another respect. -/
theorem withLeft {alikeThen : σ → σ → Prop} {result : EStateM.Result ε σ α}
    {other : EStateM.Result ε σ β} (same : SameOutcome agree alike result other)
    (left : alikeThen (Palimpsest.leftBy result) (Palimpsest.leftBy other)) :
    SameOutcome agree alikeThen result other := by
  cases same with
  | ok agreed _ => exact .ok agreed left
  | error failure _ => exact .error failure left

/-- Sequences agree when their parts do. What follows may use that the first
parts have succeeded. -/
theorem bind {first : EStateM ε σ α} {otherFirst : EStateM ε σ β} {next : α → EStateM ε σ γ}
    {otherNext : β → EStateM ε σ δ} {start other : σ}
    (same : SameOutcome agree alike (first start) (otherFirst other))
    (sameNext : ∀ value otherValue middle otherMiddle, agree value otherValue →
      alike middle otherMiddle → first start = .ok value middle →
      SameOutcome agreeNext alike (next value middle) (otherNext otherValue otherMiddle)) :
    SameOutcome agreeNext alike ((first >>= next) start) ((otherFirst >>= otherNext) other) := by
  change SameOutcome agreeNext alike (EStateM.bind first next start)
    (EStateM.bind otherFirst otherNext other)
  unfold EStateM.bind
  generalize firstEq : first start = result at same ⊢
  generalize otherFirst other = otherResult at same ⊢
  cases same with
  | ok agreed leftAlike => exact sameNext _ _ _ _ agreed leftAlike firstEq
  | error failure leftAlike => exact .error failure leftAlike

end SameOutcome

/-! ## Programs -/

/-- One grid and one entry point; views and update modes may differ. -/
structure Program.Alike (program other : Program) : Prop where
  grid : program.grid = other.grid
  entry : program.entry = other.entry

namespace Program.Alike

variable {program other : Program}

theorem refl (program : Program) : program.Alike program :=
  ⟨rfl, rfl⟩

theorem clickHandlers (alike : program.Alike other) :
    program.clickHandlers = other.clickHandlers := by
  rw [Program.clickHandlers, Program.clickHandlers, alike.grid, alike.entry]

/-- Alike programs accept the same replacements and stay alike. -/
private theorem replace (alike : program.Alike other) (location : Location) (length : Int)
    (text : Text) {revision : Revision}
    (accepted : program.replace location length text = .ok revision) :
    ∃ otherRevision, other.replace location length text = .ok otherRevision ∧
      revision.inserted = otherRevision.inserted ∧
      revision.program.Alike otherRevision.program := by
  unfold Program.replace at accepted ⊢
  rw [← alike.grid, ← alike.entry]
  cases found : program.grid.row? location.row with
  | none =>
      simp only [found] at accepted
      cases accepted
  | some line =>
      simp only [found] at accepted ⊢
      split at accepted
      · rename_i inside
        rw [if_pos inside, ← Except.ok.inj accepted]
        exact ⟨_, rfl, rfl, rfl, rfl⟩
      · cases accepted

/-- Alike programs accept the same new rows and stay alike. -/
private theorem addLine (alike : program.Alike other) (before : Int) {revision : Revision}
    (accepted : program.addLine before = .ok revision) :
    ∃ otherRevision, other.addLine before = .ok otherRevision ∧
      revision.inserted = otherRevision.inserted ∧
      revision.program.Alike otherRevision.program := by
  unfold Program.addLine at accepted ⊢
  rw [← alike.grid, ← alike.entry]
  split at accepted
  · rename_i inside
    rw [if_pos inside, ← Except.ok.inj accepted]
    exact ⟨_, rfl, rfl, rfl, rfl⟩
  · cases accepted

/-- Alike programs take requests alike. -/
theorem revise_ok (alike : program.Alike other) {request : Request} {revision : Revision}
    (accepted : request.revise program = .ok revision) :
    ∃ otherRevision, request.revise other = .ok otherRevision ∧
      revision.inserted = otherRevision.inserted ∧
      revision.program.Alike otherRevision.program := by
  cases request with
  | replace location length text => exact alike.replace location length text accepted
  | addLine before => exact alike.addLine before accepted

theorem revise_error (alike : program.Alike other) {request : Request} {failure : Failure}
    (refused : request.revise program = .error failure) :
    request.revise other = .error failure := by
  cases request with
  | replace location length text =>
      simp only [Request.revise, Program.replace] at refused ⊢
      rw [← alike.grid]
      cases found : program.grid.row? location.row with
      | none =>
          simp only [found] at refused ⊢
          exact refused
      | some line =>
          simp only [found] at refused ⊢
          split at refused
          · cases refused
          · rename_i outside
            rw [if_neg outside]
            exact refused
  | addLine before =>
      simp only [Request.revise, Program.addLine] at refused ⊢
      rw [← alike.grid]
      split at refused
      · cases refused
      · rename_i outside
        rw [if_neg outside]
        exact refused

end Program.Alike

/-! ## Instructions -/

namespace Frame

/-- Frames on alike programs, with one pointer and one memory. -/
structure Alike (frame other : Frame) : Prop where
  program : frame.program.Alike other.program
  pointer : frame.pointer = other.pointer
  memory : frame.memory = other.memory

/-- No action can tell alike frames apart. -/
theorem Built.sameOutcome {α : Type} {action : Action α} (built : Built action)
    {frame other : Frame} (alike : frame.Alike other) :
    SameOutcome Eq Alike (action frame) (action other) := by
  induction built generalizing frame other with
  | pure value => exact .ok rfl alike
  | push value => exact .ok rfl ⟨alike.program, alike.pointer, congrArg (value :: ·) alike.memory⟩
  | look =>
      have grid_eq := alike.program.grid
      change SameOutcome Eq Alike (.ok frame.program.grid frame) (.ok other.program.grid other)
      rw [grid_eq]
      exact .ok rfl alike
  | point target =>
      exact .ok rfl ⟨alike.program, congrArg target alike.pointer, alike.memory⟩
  | pop =>
      cases memory : frame.memory with
      | nil =>
          rw [pop_of_nil memory, pop_of_nil (alike.memory ▸ memory)]
          exact .error _ alike
      | cons value rest =>
          rw [pop_of_cons memory, pop_of_cons (alike.memory ▸ memory)]
          exact .ok rfl ⟨alike.program, alike.pointer, rfl⟩
  | @require _ result proper =>
      cases result with
      | ok value => exact .ok rfl alike
      | error failure => exact .error failure alike
  | edit request =>
      cases revised : request.revise frame.program with
      | ok revision =>
          obtain ⟨otherRevision, otherRevised, inserted_eq, stillAlike⟩ :=
            alike.program.revise_ok revised
          rw [edit_of_ok revised, edit_of_ok otherRevised, inserted_eq]
          exact .ok rfl ⟨stillAlike, alike.pointer, alike.memory⟩
      | error failure =>
          rw [edit_of_error revised, edit_of_error (alike.program.revise_error revised)]
          exact .error failure alike
  | bind _ _ firstHypothesis nextHypothesis =>
      apply (firstHypothesis alike).bind
      rintro value _ middle otherMiddle rfl middleAlike _
      exact nextHypothesis value middleAlike

/-- Nor can carrying out a word. -/
theorem sameOutcome_perform (word : Word) {frame other : Frame} (alike : frame.Alike other) :
    SameOutcome Eq Alike (perform word frame) (perform word other) := by
  apply ((Built.executeWord word).sameOutcome alike).bind
  rintro flow _ middle otherMiddle rfl middleAlike _
  cases flow with
  | transfer target => exact .ok rfl middleAlike
  | advance =>
      change SameOutcome Eq Alike
        (.ok (middle.program.grid.nextWord (middle.pointer.right word.length)) middle)
        (.ok (otherMiddle.program.grid.nextWord (otherMiddle.pointer.right word.length))
          otherMiddle)
      rw [middleAlike.program.grid, middleAlike.pointer]
      exact .ok rfl middleAlike

end Frame

/-! ## Listeners -/

/-- A relation between observers that lasts when both sides are told the same, and
when both sides start over with recorders of their own. -/
structure Hearing (heard : List Observer → List Observer → Prop) : Prop where
  told : ∀ {observers others : List Observer} (notice : Notice), heard observers others →
    heard (observers.map (.told notice)) (others.map (.told notice))
  restarted : ∀ {observers others : List Observer} (keepsTrace otherKeepsTrace : Bool),
    heard observers others →
    heard (.recorder (.empty keepsTrace) :: observers.drop 1)
      (.recorder (.empty otherKeepsTrace) :: others.drop 1)

/-- Nothing needs to be known about the observers. -/
theorem Hearing.trivial : Hearing fun _ _ => True :=
  ⟨fun _ _ => True.intro, fun _ _ _ => True.intro⟩

variable {heard : List Observer → List Observer → Prop}

/-! ## Threads -/

/-- One thread on alike programs, whoever listens. -/
structure Scene.Alike (scene other : Scene) : Prop where
  thread : scene.thread = other.thread
  program : scene.program.Alike other.program

/-- One thread on alike programs, with observers that have something in common. -/
def Scene.AlikeHeard (heard : List Observer → List Observer → Prop) (scene other : Scene) :
    Prop :=
  scene.Alike other ∧ heard scene.monitor.observers other.monitor.observers

theorem Thread.notice_eq (thread : Thread) {program other : Program}
    (alike : program.Alike other) : thread.notice program = thread.notice other := by
  unfold notice stateAt
  rw [alike.grid]

theorem Scene.Alike.frame {scene other : Scene} (alike : scene.Alike other)
    (location : Location) : (scene.frame location).Alike (other.frame location) :=
  ⟨alike.program, rfl, congrArg Thread.memory alike.thread⟩

/-- Alike scenes make the same step, provided that the grid it leaves is
moderate. -/
theorem Scene.sameOutcome_step (hearing : Hearing heard) {scene other : Scene}
    (alike : scene.AlikeHeard heard other)
    (moderate : (leftBy (step scene)).program.grid.Moderate) :
    SameOutcome Eq (AlikeHeard heard) (step scene) (step other) := by
  rcases alike with ⟨alike, common⟩
  cases running : scene.thread.pointer with
  | none =>
      have otherRunning : other.thread.pointer = none := alike.thread ▸ running
      rw [step_of_ended running, step_of_ended otherRunning]
      exact .ok rfl ⟨alike, common⟩
  | some location =>
      have otherRunning : other.thread.pointer = some location := alike.thread ▸ running
      by_cases fits : location.fits = true
      · have same := Frame.sameOutcome_perform (scene.program.grid.readWord location)
          (alike.frame location)
        have words : other.program.grid.readWord location =
            scene.program.grid.readWord location := by
          rw [alike.program.grid]
        generalize performed : Frame.perform (scene.program.grid.readWord location)
          (scene.frame location) = result at same
        generalize otherPerformed : Frame.perform (scene.program.grid.readWord location)
          (other.frame location) = otherResult at same
        rw [← words] at otherPerformed
        cases same with
        | error failure leftAlike =>
            rw [step_of_perform_error running fits performed,
              step_of_perform_error otherRunning fits otherPerformed, alike.thread]
            refine .error _ ⟨⟨?_, leftAlike.program⟩, common⟩
            simp only [leave, leftAlike.pointer, leftAlike.memory]
        | @ok target _ frame otherFrame agreed leftAlike =>
            subst agreed
            have program_eq := (leftBy_step_of_perform_ok running fits performed).2
            rw [program_eq] at moderate
            obtain ⟨told, step_eq⟩ :=
              step_of_perform_ok_of_moderate running fits performed moderate
            obtain ⟨otherTold, otherStep_eq⟩ :=
              step_of_perform_ok_of_moderate otherRunning fits otherPerformed
                (leftAlike.program.grid ▸ moderate)
            have thread_eq :
                { scene.thread with pointer := target, memory := frame.memory } =
                  { other.thread with pointer := target, memory := otherFrame.memory } := by
              rw [alike.thread, leftAlike.memory]
            have told_eq := observers_of_step_eq_ok (by simp [Thread.isRunning, running]) step_eq
            have otherTold_eq :=
              observers_of_step_eq_ok (by simp [Thread.isRunning, otherRunning]) otherStep_eq
            rw [step_eq, otherStep_eq]
            refine .ok rfl ⟨⟨thread_eq, leftAlike.program⟩, ?_⟩
            rw [told_eq, otherTold_eq, thread_eq, Thread.notice_eq _ leftAlike.program]
            exact hearing.told _ common
      · have overlong : location.fits = false := by simpa using fits
        rw [step_of_not_fits running overlong, step_of_not_fits otherRunning overlong]
        exact .error _ ⟨alike, common⟩

/-! ## Machines -/

namespace Machine

/-- The same threads on alike programs. -/
structure Alike (machine other : Machine) : Prop where
  program : machine.program.Alike other.program
  threads : machine.threads = other.threads
  cursor : machine.cursor = other.cursor
  stepCount : machine.stepCount = other.stepCount
  nextKey : machine.nextKey = other.nextKey

/-- Alike machines, whoever listens. -/
def AlikeUnheard (state other : Machine × Monitor) : Prop :=
  state.1.Alike other.1

/-- Alike machines, with observers that have something in common. -/
def AlikeHeard (heard : List Observer → List Observer → Prop) (state other : Machine × Monitor) :
    Prop :=
  AlikeUnheard state other ∧ heard state.2.observers other.2.observers

variable {machine other : Machine}

theorem Alike.isRunning (alike : machine.Alike other) : machine.isRunning = other.isRunning := by
  rw [Machine.isRunning, Machine.isRunning, alike.threads]

theorem Alike.isFinished (alike : machine.Alike other) :
    machine.isFinished = other.isFinished := by
  rw [Machine.isFinished, Machine.isFinished, alike.isRunning, alike.program.clickHandlers]

theorem Alike.afterStep (alike : machine.Alike other) (thread : Thread)
    {program otherProgram : Program} (programAlike : program.Alike otherProgram) :
    (machine.afterStep thread program).Alike (other.afterStep thread otherProgram) := by
  unfold Machine.afterStep
  rw [alike.threads, alike.cursor]
  exact ⟨programAlike, rfl, rfl, congrArg (· + 1) alike.stepCount, alike.nextKey⟩

/-- Alike machines make the same step, provided that the grid it leaves is
moderate. -/
theorem sameOutcome_step (hearing : Hearing heard) {monitor otherMonitor : Monitor}
    (alike : AlikeHeard heard (machine, monitor) (other, otherMonitor))
    (moderate : (leftBy (step (machine, monitor))).1.program.grid.Moderate) :
    SameOutcome Eq (AlikeHeard heard) (step (machine, monitor)) (step (other, otherMonitor)) := by
  obtain ⟨alike, common⟩ : machine.Alike other ∧ heard monitor.observers otherMonitor.observers :=
    alike
  cases under : machine.threads[machine.cursor]? with
  | none =>
      have otherUnder : other.threads[other.cursor]? = none := by
        rw [← alike.threads, ← alike.cursor, under]
      rw [step_of_idle under, step_of_idle otherUnder]
      exact .ok rfl ⟨alike, common⟩
  | some thread =>
      have otherUnder : other.threads[other.cursor]? = some thread := by
        rw [← alike.threads, ← alike.cursor, under]
      have sceneAlike : Scene.AlikeHeard heard ⟨thread, machine.program, monitor⟩
          ⟨thread, other.program, otherMonitor⟩ :=
        ⟨⟨rfl, alike.program⟩, common⟩
      rw [program_leftBy_step under] at moderate
      have same := Scene.sameOutcome_step hearing sceneAlike moderate
      generalize stepped : Scene.step ⟨thread, machine.program, monitor⟩ = result at same
      generalize otherStepped : Scene.step ⟨thread, other.program, otherMonitor⟩ = otherResult
        at same
      cases same with
      | error failure leftAlike =>
          rcases leftAlike with ⟨leftAlike, leftCommon⟩
          rw [step_of_scene_error under stepped, step_of_scene_error otherUnder otherStepped]
          refine .error failure
            ⟨⟨leftAlike.program, ?_, alike.cursor, alike.stepCount, alike.nextKey⟩, leftCommon⟩
          simp only [alike.threads, alike.cursor, leftAlike.thread]
      | ok agreed leftAlike =>
          rcases leftAlike with ⟨leftAlike, leftCommon⟩
          obtain ⟨told, step_eq⟩ := step_of_scene_ok under stepped
          obtain ⟨otherTold, otherStep_eq⟩ := step_of_scene_ok otherUnder otherStepped
          rw [← observers_of_step_eq_ok under stepped step_eq,
            ← observers_of_step_eq_ok otherUnder otherStepped otherStep_eq] at leftCommon
          rw [step_eq, otherStep_eq, leftAlike.thread]
          exact .ok rfl ⟨alike.afterStep _ leftAlike.program, leftCommon⟩

/-- Threads start alike on alike machines. -/
theorem sameOutcome_startThread (hearing : Hearing heard) {monitor otherMonitor : Monitor}
    (alike : AlikeHeard heard (machine, monitor) (other, otherMonitor)) (name : String)
    {location : Location} (fits : location.fits = true) (memory : List Text) :
    SameOutcome Eq (AlikeHeard heard) (startThread name location memory (machine, monitor))
      (startThread name location memory (other, otherMonitor)) := by
  obtain ⟨alike, common⟩ : machine.Alike other ∧ heard monitor.observers otherMonitor.observers :=
    alike
  obtain ⟨told, start_eq⟩ := startThread_of_fits fits machine monitor name memory
  obtain ⟨otherTold, otherStart_eq⟩ := startThread_of_fits fits other otherMonitor name memory
  have told_eq := (startThread_eq_ok start_eq).2
  have otherTold_eq := (startThread_eq_ok otherStart_eq).2
  rw [← alike.nextKey, ← Thread.notice_eq _ alike.program] at otherTold_eq
  rw [start_eq, otherStart_eq]
  refine .ok rfl ⟨⟨alike.program, ?_, alike.cursor, alike.stepCount, ?_⟩, ?_⟩
  · simp only [alike.threads, alike.nextKey]
  · simp only [alike.nextKey]
  · rw [told_eq, otherTold_eq]
    exact hearing.told _ common

end Machine

end Palimpsest

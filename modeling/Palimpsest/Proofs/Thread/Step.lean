import Palimpsest.Machine
import Palimpsest.Proofs.Thread.Action

/-!
# Steps of threads and machines

Where an instruction sends its thread there is a letter or the start of a row,
so observers of a moderate grid can always be told. A step is therefore decided
by the instruction alone: it fails when the instruction fails, and otherwise
leaves the program, the pointer and the memory that the instruction leads to. A
step of a machine is one of the thread under its cursor.
-/

namespace Palimpsest

namespace Frame

/-! ## Where instructions send their thread -/

/-- Whenever the action transfers the thread, it does so to a place that is
good in the grid as it is then. -/
def Lands (good : Grid → Location → Prop) (action : Action Flow) : Prop :=
  ∀ (frame after : Frame) (target : Location),
    action frame = .ok (.transfer (some target)) after → good after.program.grid target

namespace Lands

variable {good : Grid → Location → Prop}

theorem advance : Lands good (pure .advance) := by
  intro frame after target executed
  cases executed

theorem halt : Lands good (pure (.transfer none)) := by
  intro frame after target executed
  cases executed

/-- Only the last action of a sequence transfers the thread. -/
theorem bind {α : Type} {first : Action α} {next : α → Action Flow}
    (lands : ∀ value, Lands good (next value)) : Lands good (first >>= next) := by
  intro frame after target executed
  rcases bind_eq_ok_iff.mp executed with ⟨value, middle, _, executed⟩
  exact lands value middle after target executed

theorem advancing {action : Action Unit} : Lands good (do action; return Flow.advance) :=
  bind fun _ => advance

theorem jump (label : Text) : Lands Grid.HasInk (jump label) := by
  intro frame after target executed
  rcases bind_eq_ok_iff.mp executed with ⟨grid, _, ⟨⟩, executed⟩
  injection executed with flow_eq after_eq
  injection flow_eq with found
  rw [← after_eq]
  exact Grid.hasInk_of_findWord_eq_some found

theorem jumpIndirect :
    Lands (fun grid location => isTarget grid location = true) jumpIndirect := by
  apply bind
  intro location frame after target executed
  rcases bind_eq_ok_iff.mp executed with ⟨grid, _, ⟨⟩, executed⟩
  split at executed
  · rename_i targeted
    cases executed
    exact targeted
  · cases executed

/-- Instructions that do not jump to an address send their thread to letters of
words only. -/
theorem execute [Cluster.Splitter] {instruction : Instruction}
    (direct : instruction.opcode ≠ .jumpIndirect) :
    Lands Grid.HasInk (execute instruction) := by
  rcases instruction with ⟨opcode, operand⟩
  cases opcode with
  | load =>
      apply bind
      intro grid
      cases grid.findLead operand with
      | none => exact advance
      | some location => exact advancing
  | save =>
      apply bind
      intro value
      apply bind
      intro grid
      cases grid.findLead operand with
      | none => exact advance
      | some location => exact bind fun _ => advancing
  | math =>
      change Lands _ (Frame.math operand)
      unfold Frame.math
      split
      · exact advance
      · split
        · exact advance
        · exact advancing
  | branch =>
      apply bind
      intro value
      split
      · exact jump operand
      · exact advance
  | jump => exact jump operand
  | halt => exact halt
  | find =>
      apply bind
      intro grid
      cases grid.findLead operand with
      | none => exact advance
      | some location => exact advancing
  | appendWord =>
      exact bind fun _ => bind fun _ => bind fun _ => bind fun _ => bind fun _ => advancing
  | addLine => exact bind fun _ => bind fun _ => bind fun _ => advancing
  | deleteWord => exact bind fun _ => bind fun _ => bind fun _ => bind fun _ => advancing
  | deleteLetter =>
      exact bind fun _ => bind fun _ => bind fun _ => bind fun _ => bind fun _ => advancing
  | paste => exact bind fun _ => bind fun _ => bind fun _ => advancing
  | move =>
      apply bind
      intro location
      cases Direction.ofText? operand with
      | none => exact advance
      | some direction => exact advancing
  | drop => exact bind fun _ => advance
  | swap => exact bind fun _ => bind fun _ => bind fun _ => advancing
  | duplicate => exact bind fun _ => bind fun _ => advancing
  | readLetter => exact bind fun _ => bind fun _ => bind fun _ => advancing
  | jumpIndirect => exact absurd rfl direct

end Lands

/-- A letter of a word is a place where a thread may be sent. -/
theorem isTarget_of_hasInk {grid : Grid} {location : Location} (ink : grid.HasInk location) :
    isTarget grid location = true := by
  simp [isTarget, ink.isValid]

/-- A place where a thread may be sent can be written down when the grid is
moderate. -/
theorem fits_of_isTarget {grid : Grid} (moderate : grid.Moderate) {location : Location}
    (targeted : isTarget grid location = true) : location.fits = true := by
  unfold isTarget at targeted
  simp only [Bool.or_eq_true, Bool.and_eq_true, beq_iff_eq] at targeted
  rcases targeted with ⟨start, isThere⟩ | valid
  · obtain ⟨line, found⟩ := Option.isSome_iff_exists.mp isThere
    exact moderate.location_fits found (by omega) (by omega)
  · exact moderate.fits_of_isValid valid

/-- A thread goes on at a letter or at the start of a row. -/
theorem isTarget_of_perform_eq_ok [Cluster.Splitter] {word : Word} {frame after : Frame}
    {target : Location} (performed : perform word frame = .ok (some target) after) :
    isTarget after.program.grid target = true := by
  rcases bind_eq_ok_iff.mp performed with ⟨flow, middle, executed, continued⟩
  cases flow with
  | advance =>
      rcases bind_eq_ok_iff.mp continued with ⟨_, _, ⟨⟩, continued⟩
      injection continued with next_eq after_eq
      rw [← after_eq]
      exact isTarget_of_hasInk (Grid.hasInk_of_nextWord_eq_some next_eq)
  | transfer sent =>
      cases continued
      cases decoded : Instruction.decode? word.text with
      | none =>
          simp only [executeWord, decoded] at executed
          cases executed
      | some instruction =>
          simp only [executeWord, decoded] at executed
          by_cases indirect : instruction.opcode = .jumpIndirect
          · simp only [execute, indirect] at executed
            exact Lands.jumpIndirect frame after target executed
          · exact isTarget_of_hasInk (Lands.execute indirect frame after target executed)

end Frame

/-! ## Telling observers -/

namespace Monitor

/-- An observer takes every notice whose place can be written. -/
theorem tellOne_of_fits {notice : Notice} (fits : notice.event.fits = true)
    (observer : Observer) (journal : Journal) :
    ∃ told, tellOne notice observer journal = .ok () told := by
  cases observer with
  | recorder recorder =>
      cases traced : recorder.keepsTrace with
      | true => simp [tellOne, Recorder.note, traced, fits]
      | false => simp [tellOne, Recorder.note, traced]
  | reporter level => simp [tellOne, fits]
  | silent => simp [tellOne]

theorem tellAll_of_fits {notice : Notice} (fits : notice.event.fits = true)
    (observers : List Observer) (journal : Journal) :
    ∃ told, tellAll notice journal observers = .ok () told := by
  induction observers generalizing journal with
  | nil => exact ⟨_, rfl⟩
  | cons observer rest inductionHypothesis =>
      obtain ⟨⟨told, written⟩, first⟩ := tellOne_of_fits fits observer journal
      obtain ⟨⟨others, last⟩, later⟩ := inductionHypothesis written
      exact ⟨(told :: others, last), by simp [tellAll, first, later]⟩

theorem tell_of_fits {notice : Notice} (fits : notice.event.fits = true) (monitor : Monitor) :
    ∃ told, tell notice monitor = .ok () told := by
  obtain ⟨⟨observers, journal⟩, told⟩ := tellAll_of_fits fits monitor.observers monitor.journal
  exact ⟨⟨observers, journal⟩, by simp [tell, told]⟩

end Monitor

/-- What is told about a thread can be written when its pointer can. -/
theorem Thread.notice_fits {thread : Thread}
    (fits : ∀ location, thread.pointer = some location → location.fits = true)
    (program : Program) : (thread.notice program).event.fits = true := by
  unfold Thread.notice
  split
  · rename_i location pointed
    exact fits location pointed
  · rfl

namespace Scene

/-- A thread alone on the program of a text, with a memory listed from the top
down. -/
def alone (text : String) (pointer : Location) (memory : List String) : Scene where
  thread := ⟨"main", .number 0, some pointer, memory.map String.toList⟩
  program := .load text.toList false
  monitor := ⟨[], .empty Severity.warning.level⟩

/-- Telling changes neither the thread nor the program. -/
theorem leftBy_tell (scene : Scene) :
    (leftBy (tell scene)).thread = scene.thread ∧
      (leftBy (tell scene)).program = scene.program := by
  unfold tell
  split <;> exact ⟨rfl, rfl⟩

theorem tell_of_fits (scene : Scene)
    (fits : ∀ location, scene.thread.pointer = some location → location.fits = true) :
    ∃ monitor, tell scene = .ok () { scene with monitor := monitor } := by
  obtain ⟨monitor, told⟩ :=
    Monitor.tell_of_fits (Thread.notice_fits fits scene.program) scene.monitor
  exact ⟨monitor, by simp [tell, told]⟩

/-! ## What a step comes to -/

theorem step_of_ended [Cluster.Splitter] {scene : Scene} (ended : scene.thread.pointer = none) :
    step scene = .ok () scene := by
  simp [step, ended]

theorem step_of_not_fits [Cluster.Splitter] {scene : Scene} {location : Location}
    (running : scene.thread.pointer = some location) (overlong : location.fits = false) :
    step scene = .error .overlong scene := by
  simp [step, running, overlong]

/-- An instruction does not see who listens. -/
theorem frame_withMonitor (scene : Scene) (monitor : Monitor) (location : Location) :
    ({ scene with monitor := monitor } : Scene).frame location = scene.frame location :=
  rfl

section Performed

variable {scene : Scene} {location : Location} {frame : Frame}

/-- A step whose instruction fails leaves what the instruction has left and
tells nobody. -/
theorem step_of_perform_error [Cluster.Splitter] {failure : Failure}
    (running : scene.thread.pointer = some location) (fits : location.fits = true)
    (performed : Frame.perform (scene.program.grid.readWord location) (scene.frame location) =
      .error failure frame) :
    step scene = .error (failure.arisingIn scene.thread.name location)
      (({ scene with
        monitor := scene.monitor.write
          (.stepping (scene.thread.stateAt scene.program location)) } : Scene).leave frame
            (some frame.pointer)) := by
  unfold step
  simp only [running, fits, if_true]
  rw [frame_withMonitor, performed]

/-- A step whose instruction succeeds tells the observers last, of what the
instruction has led to. -/
theorem step_of_perform_ok [Cluster.Splitter] {target : Option Location}
    (running : scene.thread.pointer = some location) (fits : location.fits = true)
    (performed : Frame.perform (scene.program.grid.readWord location)
      (scene.frame location) = .ok target frame) :
    ∃ monitor, step scene =
        tell ⟨{ scene.thread with pointer := target, memory := frame.memory }, frame.program,
          monitor⟩ ∧
      monitor.observers = scene.monitor.observers := by
  unfold step
  simp only [running, fits, if_true]
  rw [frame_withMonitor, performed]
  cases target with
  | none => exact ⟨_, rfl, rfl⟩
  | some reached => exact ⟨_, rfl, rfl⟩

/-- Telling comes last, so it does not matter for the thread and the program
whether it succeeds. -/
theorem leftBy_step_of_perform_ok [Cluster.Splitter] {target : Option Location}
    (running : scene.thread.pointer = some location) (fits : location.fits = true)
    (performed : Frame.perform (scene.program.grid.readWord location)
      (scene.frame location) = .ok target frame) :
    (leftBy (step scene)).thread =
        { scene.thread with pointer := target, memory := frame.memory } ∧
      (leftBy (step scene)).program = frame.program := by
  obtain ⟨monitor, step_eq, _⟩ := step_of_perform_ok running fits performed
  rw [step_eq]
  exact leftBy_tell _

/-- On moderate grids nobody fails to take notice, so a step succeeds whenever
its instruction does. -/
theorem step_of_perform_ok_of_moderate [Cluster.Splitter] {target : Option Location}
    (running : scene.thread.pointer = some location) (fits : location.fits = true)
    (performed : Frame.perform (scene.program.grid.readWord location)
      (scene.frame location) = .ok target frame)
    (moderate : frame.program.grid.Moderate) :
    ∃ monitor, step scene =
      .ok () ⟨{ scene.thread with pointer := target, memory := frame.memory }, frame.program,
        monitor⟩ := by
  obtain ⟨monitor, step_eq, _⟩ := step_of_perform_ok running fits performed
  rw [step_eq]
  refine tell_of_fits _ fun reached target_eq => ?_
  have target_eq : target = some reached := target_eq
  subst target_eq
  exact Frame.fits_of_isTarget moderate (Frame.isTarget_of_perform_eq_ok performed)

/-- A step that succeeds has carried out an instruction that succeeds. -/
theorem step_eq_ok [Cluster.Splitter] {next : Scene}
    (running : scene.thread.pointer = some location) (stepped : step scene = .ok () next) :
    ∃ target frame, Frame.perform (scene.program.grid.readWord location)
        (scene.frame location) = .ok target frame ∧
      next.thread = { scene.thread with pointer := target, memory := frame.memory } ∧
      next.program = frame.program := by
  by_cases fits : location.fits = true
  · cases performed : Frame.perform (scene.program.grid.readWord location)
        (scene.frame location) with
    | error failure frame =>
        rw [step_of_perform_error running fits performed] at stepped
        cases stepped
    | ok target frame =>
        have left := leftBy_step_of_perform_ok running fits performed
        rw [stepped] at left
        exact ⟨target, frame, rfl, left⟩
  · rw [step_of_not_fits running (by simpa using fits)] at stepped
    cases stepped

/-- On moderate grids a step fails because the place of its instruction cannot
be written, or because the instruction fails. -/
theorem step_eq_error [Cluster.Splitter] {failure : Failure} {next : Scene}
    (moderate : next.program.grid.Moderate) (failed : step scene = .error failure next) :
    ∃ location, scene.thread.pointer = some location ∧
      (failure = .overlong ∧ next = scene ∨
        ∃ raised frame, Frame.perform (scene.program.grid.readWord location)
            (scene.frame location) = .error raised frame ∧
          failure = raised.arisingIn scene.thread.name location ∧
          next = ({ scene with
            monitor := scene.monitor.write
              (.stepping (scene.thread.stateAt scene.program location)) } : Scene).leave frame
                (some frame.pointer)) := by
  cases running : scene.thread.pointer with
  | none =>
      rw [step_of_ended running] at failed
      cases failed
  | some location =>
      refine ⟨location, rfl, ?_⟩
      by_cases fits : location.fits = true
      · cases performed : Frame.perform (scene.program.grid.readWord location)
            (scene.frame location) with
        | error raised frame =>
            rw [step_of_perform_error running fits performed] at failed
            injection failed with failure_eq next_eq
            exact .inr ⟨raised, frame, rfl, failure_eq.symm, next_eq.symm⟩
        | ok target frame =>
            have left := leftBy_step_of_perform_ok running fits performed
            rw [failed] at left
            have program_eq : next.program = frame.program := left.2
            obtain ⟨_, step_eq⟩ :=
              step_of_perform_ok_of_moderate running fits performed (program_eq ▸ moderate)
            rw [failed] at step_eq
            cases step_eq
      · rw [step_of_not_fits running (by simpa using fits)] at failed
        injection failed with failure_eq next_eq
        exact .inl ⟨failure_eq.symm, next_eq.symm⟩

end Performed

/-- A step changes the program by requests only. -/
theorem exists_requests_step [Cluster.Splitter] (scene : Scene) :
    ∃ requests, (leftBy (step scene)).program = scene.program.afterAll requests := by
  cases running : scene.thread.pointer with
  | none =>
      rw [step_of_ended running]
      exact ⟨[], rfl⟩
  | some location =>
      by_cases fits : location.fits = true
      · obtain ⟨requests, left⟩ := Frame.exists_requests_perform
          (scene.program.grid.readWord location) (scene.frame location)
        refine ⟨requests, ?_⟩
        cases performed : Frame.perform (scene.program.grid.readWord location)
            (scene.frame location) with
        | error failure frame =>
            rw [performed] at left
            rw [step_of_perform_error running fits performed]
            exact left
        | ok target frame =>
            rw [performed] at left
            rw [(leftBy_step_of_perform_ok running fits performed).2]
            exact left
      · rw [step_of_not_fits running (by simpa using fits)]
        exact ⟨[], rfl⟩

end Scene

/-! ## Machines -/

namespace Machine

variable {machine : Machine} {monitor : Monitor} {thread : Thread}

theorem step_of_idle [Cluster.Splitter] (idle : machine.threads[machine.cursor]? = none) :
    step (machine, monitor) = .ok () (machine, monitor) := by
  simp only [step, idle]

theorem step_of_scene_error [Cluster.Splitter] {failure : Failure} {scene : Scene}
    (under : machine.threads[machine.cursor]? = some thread)
    (failed : Scene.step ⟨thread, machine.program, monitor⟩ = .error failure scene) :
    step (machine, monitor) = .error failure
      ({ machine with
        program := scene.program
        threads := machine.threads.set machine.cursor scene.thread }, scene.monitor) := by
  simp only [step, under, failed]

theorem step_of_scene_ok [Cluster.Splitter] {scene : Scene}
    (under : machine.threads[machine.cursor]? = some thread)
    (stepped : Scene.step ⟨thread, machine.program, monitor⟩ = .ok () scene) :
    ∃ told, step (machine, monitor) =
      .ok () (machine.afterStep scene.thread scene.program, told) := by
  simp only [step, under, stepped]
  split
  · exact ⟨_, rfl⟩
  · exact ⟨_, rfl⟩

/-- A machine has the program that the step of its thread leaves. -/
theorem program_leftBy_step [Cluster.Splitter]
    (under : machine.threads[machine.cursor]? = some thread) :
    (leftBy (step (machine, monitor))).1.program =
      (leftBy (Scene.step ⟨thread, machine.program, monitor⟩)).program := by
  cases stepped : Scene.step ⟨thread, machine.program, monitor⟩ with
  | error failure scene =>
      rw [step_of_scene_error under stepped]
      rfl
  | ok value scene =>
      obtain ⟨told, step_eq⟩ := step_of_scene_ok under stepped
      rw [step_eq]
      rfl

/-- A step changes the program of a machine by requests only. -/
theorem exists_requests_step [Cluster.Splitter] (machine : Machine) (monitor : Monitor) :
    ∃ requests, (leftBy (step (machine, monitor))).1.program =
      machine.program.afterAll requests := by
  cases under : machine.threads[machine.cursor]? with
  | none =>
      rw [step_of_idle under]
      exact ⟨[], rfl⟩
  | some thread =>
      rw [program_leftBy_step under]
      exact Scene.exists_requests_step _

/-- A thread whose place can be written joins its machine. -/
theorem startThread_of_fits {location : Location} (fits : location.fits = true)
    (machine : Machine) (monitor : Monitor) (name : String) (memory : List Text) :
    ∃ told, startThread name location memory (machine, monitor) =
      .ok () ({ machine with
        threads := machine.threads ++
          [⟨name, .number machine.nextKey, some location, memory⟩]
        nextKey := machine.nextKey + 1 }, told) := by
  obtain ⟨told, tell_eq⟩ := Scene.tell_of_fits
    ⟨⟨name, .number machine.nextKey, some location, memory⟩, machine.program, monitor⟩
    fun place place_eq => Option.some.inj place_eq ▸ fits
  simp only [startThread, tell_eq, fits, if_true]
  exact ⟨_, rfl⟩

end Machine

end Palimpsest

import Palimpsest.Proofs.Thread.Editing
import Palimpsest.Proofs.Thread.Step

/-!
# Steps that fail

An instruction first takes its operands off memory and looks at the grid; then
it edits, moves the pointer and puts its results on memory. Only the first part
can fail, so a failing instruction leaves everything but the operands it has
taken. The one thing in the second part that could go wrong is to write down the
place of an edit, and in a moderate grid that always succeeds.
-/

namespace Palimpsest

namespace Frame

/-! ## Taking operands -/

/-- Up to `count` values have been taken off memory, and nothing else has
happened. -/
def TakenOff (count : Nat) (frame left : Frame) : Prop :=
  ∃ taken, taken ≤ count ∧ left = { frame with memory := frame.memory.drop taken }

theorem TakenOff.refl (frame : Frame) : TakenOff 0 frame frame :=
  ⟨0, Nat.le_refl 0, rfl⟩

theorem TakenOff.mono {count more : Nat} {frame left : Frame} (off : TakenOff count frame left)
    (le : count ≤ more) : TakenOff more frame left := by
  rcases off with ⟨taken, taken_le, left_eq⟩
  exact ⟨taken, Nat.le_trans taken_le le, left_eq⟩

theorem TakenOff.trans {first second : Nat} {frame middle left : Frame}
    (before : TakenOff first frame middle) (after : TakenOff second middle left) :
    TakenOff (first + second) frame left := by
  rcases before with ⟨taken, taken_le, rfl⟩
  rcases after with ⟨later, later_le, rfl⟩
  refine ⟨taken + later, by omega, ?_⟩
  simp only [List.drop_drop]

/-- The action takes at most `count` values off memory and does nothing else,
whether it succeeds or fails. -/
def Takes (count : Nat) {α : Type} (action : Action α) : Prop :=
  ∀ frame, TakenOff count frame (leftBy (action frame))

namespace Takes

theorem pure {α : Type} (value : α) : Takes 0 (pure value : Action α) :=
  TakenOff.refl

theorem look : Takes 0 currentGrid :=
  TakenOff.refl

theorem require {α : Type} (result : Except Failure α) : Takes 0 (require result) := by
  intro frame
  cases result with
  | ok value => exact .refl frame
  | error failure => exact .refl frame

theorem pop : Takes 1 pop := by
  intro frame
  cases memory : frame.memory with
  | nil =>
      rw [pop_of_nil memory]
      exact (TakenOff.refl frame).mono (Nat.zero_le 1)
  | cons value rest =>
      rw [pop_of_cons memory]
      exact ⟨1, Nat.le_refl 1, by simp [leftBy, memory]⟩

theorem mono {count more : Nat} {α : Type} {action : Action α} (takes : Takes count action)
    (le : count ≤ more) : Takes more action :=
  fun frame => (takes frame).mono le

theorem bind {first second : Nat} {α β : Type} {action : Action α} {next : α → Action β}
    (takesFirst : Takes first action) (takesNext : ∀ value, Takes second (next value)) :
    Takes (first + second) (action >>= next) := by
  intro frame
  have off := takesFirst frame
  cases result : action frame with
  | ok value middle =>
      rw [result] at off
      rw [leftBy_bind_of_ok result]
      exact off.trans (takesNext value middle)
  | error failure left =>
      rw [result] at off
      rw [leftBy_bind_of_error result]
      exact off.mono (Nat.le_add_right first second)

theorem popLocation : Takes 1 popLocation :=
  bind pop fun _ => require _

theorem lastOperand (argument : Text) : Takes 1 (lastOperand argument) := by
  unfold Frame.lastOperand
  split
  · exact pop
  · exact (pure argument).mono (Nat.zero_le 1)

end Takes

/-! ## Actions that cannot fail -/

/-- The action always succeeds. -/
def Sure {α : Type} (action : Action α) : Prop :=
  ∀ frame, ∃ value after, action frame = .ok value after

namespace Sure

theorem pure {α : Type} (value : α) : Sure (pure value : Action α) :=
  fun frame => ⟨value, frame, rfl⟩

theorem push (value : Text) : Sure (push value) :=
  fun _ => ⟨(), _, rfl⟩

theorem modify (change : Frame → Frame) : Sure (modify change : Action Unit) :=
  fun _ => ⟨(), _, rfl⟩

theorem bind {α β : Type} {first : Action α} {next : α → Action β} (sureFirst : Sure first)
    (sureNext : ∀ value, Sure (next value)) : Sure (first >>= next) := by
  intro frame
  obtain ⟨value, middle, succeeded⟩ := sureFirst frame
  obtain ⟨result, after, continued⟩ := sureNext value middle
  exact ⟨result, after, bind_eq_ok_iff.mpr ⟨value, middle, succeeded, continued⟩⟩

theorem pushLocation {location : Location} (fits : location.fits = true) :
    Sure (pushLocation location) := by
  intro frame
  refine ⟨(), _, bind_eq_ok_iff.mpr ⟨location.text, frame, ?_, rfl⟩⟩
  rw [Location.encode, if_pos fits, require_ok]

theorem advancing {action : Action Unit} (sure : Sure action) :
    Sure (do action; return Flow.advance) :=
  bind sure fun _ => pure Flow.advance

end Sure

/-! ## Actions that fail early -/

/-- On a moderate grid the action fails before it has done anything but take up
to `count` values off memory. -/
def FailsEarly (count : Nat) {α : Type} (action : Action α) : Prop :=
  ∀ frame failure left, frame.program.grid.Moderate → action frame = .error failure left →
    TakenOff count frame left

namespace FailsEarly

variable {count : Nat} {α β : Type}

theorem of_sure {action : Action α} (sure : Sure action) : FailsEarly count action := by
  intro frame failure left _ failed
  obtain ⟨value, after, succeeded⟩ := sure frame
  rw [succeeded] at failed
  cases failed

theorem throw (raised : Failure) : FailsEarly count (throw raised : Action α) := by
  intro frame failure left _ failed
  injection failed with _ left_eq
  exact left_eq ▸ (TakenOff.refl frame).mono (Nat.zero_le count)

/-- What comes before the first edit adds up the values that it takes. -/
theorem bind {first second : Nat} {action : Action α} {next : α → Action β}
    (takes : Takes first action) (early : ∀ value, FailsEarly second (next value)) :
    FailsEarly (first + second) (action >>= next) := by
  intro frame failure left moderate failed
  have off := takes frame
  rcases bind_eq_error_iff.mp failed with failed | ⟨value, middle, succeeded, failed⟩
  · rw [failed] at off
    exact off.mono (Nat.le_add_right first second)
  · rw [succeeded] at off
    have moderate : middle.program.grid.Moderate := by
      rcases off with ⟨taken, _, middle_eq⟩
      rw [show middle = _ from middle_eq]
      exact moderate
    exact off.trans (early value middle failure left moderate failed)

/-- Take nothing off memory, and go on. -/
theorem looking {action : Action α} {next : α → Action β} (takes : Takes 0 action)
    (early : ∀ value, FailsEarly count (next value)) : FailsEarly count (action >>= next) := by
  have early := bind takes early
  rwa [Nat.zero_add] at early

/-- Take a value off memory, and go on. -/
theorem taking {action : Action α} {next : α → Action β} (takes : Takes 1 action)
    (early : ∀ value, FailsEarly count (next value)) :
    FailsEarly (count + 1) (action >>= next) := by
  have early := bind takes early
  rwa [Nat.add_comm] at early

/-- What cannot fail may come last. -/
theorem bind_sure {action : Action α} {next : α → Action β} (early : FailsEarly count action)
    (sure : ∀ value, Sure (next value)) : FailsEarly count (action >>= next) := by
  intro frame failure left moderate failed
  rcases bind_eq_error_iff.mp failed with failed | ⟨value, middle, _, failed⟩
  · exact early frame failure left moderate failed
  · obtain ⟨result, after, succeeded⟩ := sure value middle
    rw [succeeded] at failed
    cases failed

/-- A refused edit changes nothing, and behind an accepted one nothing may fail. -/
theorem edit {revise : Program → Except Failure Revision} {next : Nat → Action α}
    (sure : ∀ program revision, program.grid.Moderate → revise program = .ok revision →
      Sure (next revision.inserted)) :
    FailsEarly count (Frame.edit revise >>= next) := by
  intro frame failure left moderate failed
  rcases bind_eq_error_iff.mp failed with failed | ⟨inserted, middle, succeeded, failed⟩
  · cases revised : revise frame.program with
    | ok revision =>
        rw [edit_of_ok revised] at failed
        cases failed
    | error raised =>
        rw [edit_of_error revised] at failed
        injection failed with _ left_eq
        exact left_eq ▸ (TakenOff.refl frame).mono (Nat.zero_le count)
  · obtain ⟨revision, revised, rfl, _⟩ := edit_eq_ok succeeded
    obtain ⟨result, after, succeeded⟩ :=
      sure frame.program revision moderate revised middle
    rw [succeeded] at failed
    cases failed

theorem pushLocation (location : Location) : FailsEarly count (pushLocation location) :=
  looking (.require _) fun shown => of_sure (.push shown)

theorem pushNumber (number : Int) : FailsEarly count (pushNumber number) :=
  looking (.require _) fun shown => of_sure (.push shown)

theorem advancing {action : Action Unit} (early : FailsEarly count action) :
    FailsEarly count (do action; return Flow.advance) :=
  bind_sure early fun _ => .pure Flow.advance

end FailsEarly

end Frame

/-! ## Places of edits -/

/-- In a moderate grid the place of an accepted replacement can be written down,
and so can the place right of it. -/
theorem Program.fits_of_replace_eq_ok [Cluster.Splitter] {program : Program}
    {location : Location} {length : Int} {text : Text} {revision : Revision}
    (moderate : program.grid.Moderate)
    (accepted : program.replace location length text = .ok revision) :
    location.fits = true ∧ (location.right 1).fits = true := by
  obtain ⟨line, _, found, col_nonneg, col_le, _⟩ := replace_eq_ok accepted
  constructor
  · exact moderate.location_fits found col_nonneg (by omega)
  · have foundThere : program.grid.row? (location.right 1).row = some line := by
      simpa [Location.right] using found
    apply moderate.location_fits foundThere
    · simp only [Location.right, Location.shift_col]
      omega
    · simp only [Location.right, Location.shift_col]
      omega

/-- In a moderate grid the start of a new row can be written down. -/
theorem Program.fits_of_addLine_eq_ok [Cluster.Splitter] {program : Program} {before : Int}
    {revision : Revision} (moderate : program.grid.Moderate)
    (accepted : program.addLine before = .ok revision) :
    (⟨before, 0⟩ : Location).fits = true := by
  obtain ⟨nonneg, le_length, _⟩ := addLine_eq_ok accepted
  have rowFits : Numeral.fits (before + 1) = true := moderate.fits (by omega) (by omega)
  have colFits : Numeral.fits (0 + 1) = true := moderate.fits (by omega) (by omega)
  unfold Location.fits
  rw [rowFits, colFits]
  rfl

namespace Frame.FailsEarly

/-! ## Operations -/

theorem applyOperator (operator : Operator) (argument : Text) :
    FailsEarly 2 (applyOperator operator argument) := by
  cases operator with
  | equal =>
      exact taking (.lastOperand argument) fun second => taking .pop fun first =>
        of_sure (.push _)
  | isZero =>
      exact taking (.lastOperand argument) fun value => looking (.require _) fun number =>
        pushNumber _
  | binary operator =>
      exact taking (.lastOperand argument) fun value => looking (.require _) fun second =>
        taking .pop fun other => looking (.require _) fun first => pushNumber _

theorem math (operand : Text) : FailsEarly 2 (math operand) := by
  unfold Frame.math
  split
  · exact of_sure (.pure _)
  · split
    · exact of_sure (.pure _)
    · exact advancing (applyOperator _ _)

theorem jump (label : Text) : FailsEarly count (jump label) :=
  looking .look fun _ => of_sure (.pure _)

theorem appendWord : FailsEarly 2 appendWord := by
  apply taking .pop
  intro word
  apply taking .popLocation
  intro location
  apply looking .look
  intro grid
  apply edit
  intro program revision moderate accepted
  have fits := (Program.fits_of_replace_eq_ok moderate accepted).2
  exact .bind (.modify _) fun _ => .advancing (.pushLocation fits)

theorem addLine : FailsEarly 2 addLine := by
  apply taking .popLocation
  intro location
  apply edit
  intro program revision moderate accepted
  have fits := Program.fits_of_addLine_eq_ok moderate accepted
  exact .bind (.modify _) fun _ => .advancing (.pushLocation fits)

theorem deleteWord : FailsEarly 2 deleteWord := by
  apply taking .popLocation
  intro location
  apply looking .look
  intro grid
  apply edit
  intro program revision moderate accepted
  have fits := (Program.fits_of_replace_eq_ok moderate accepted).1
  exact .bind (.modify _) fun _ => .advancing (.pushLocation fits)

theorem deleteLetter : FailsEarly 2 deleteLetter := by
  refine taking .popLocation fun location => looking .look fun grid =>
    looking (.require _) fun letter => ?_
  apply edit
  intro program revision moderate accepted
  have fits := (Program.fits_of_replace_eq_ok moderate accepted).1
  exact .bind (.modify _) fun _ => .advancing (.pushLocation fits)

/-- On a moderate grid every instruction fails before it edits anything. -/
theorem execute (instruction : Instruction) : FailsEarly 2 (execute instruction) := by
  rcases instruction with ⟨opcode, operand⟩
  cases opcode with
  | load =>
      apply looking .look
      intro grid
      cases grid.findLead operand with
      | none => exact of_sure (.pure _)
      | some location => exact of_sure (.advancing (.push _))
  | save =>
      apply taking .pop
      intro value
      apply looking .look
      intro grid
      cases grid.findLead operand with
      | none => exact of_sure (.pure _)
      | some location => exact edit fun _ _ _ _ => .advancing (.modify _)
  | math => exact math operand
  | branch =>
      apply taking .pop
      intro value
      split
      · exact jump operand
      · exact of_sure (.pure _)
  | jump => exact jump operand
  | halt => exact of_sure (.pure _)
  | find =>
      apply looking .look
      intro grid
      cases grid.findLead operand with
      | none => exact of_sure (.pure _)
      | some location => exact advancing (pushLocation location)
  | appendWord => exact appendWord
  | addLine => exact addLine
  | deleteWord => exact deleteWord
  | deleteLetter => exact deleteLetter
  | paste =>
      exact taking .pop fun text => taking .popLocation fun location =>
        edit fun _ _ _ _ => .advancing (.modify _)
  | move =>
      apply taking .popLocation
      intro location
      cases Direction.ofText? operand with
      | none => exact of_sure (.pure _)
      | some direction => exact advancing (pushLocation _)
  | drop => exact taking .pop fun _ => of_sure (.pure _)
  | swap =>
      exact taking .pop fun first => taking .pop fun second =>
        of_sure (.bind (.push first) fun _ => .advancing (.push second))
  | duplicate =>
      exact taking .pop fun value =>
        of_sure (.bind (.push value) fun _ => .advancing (.push value))
  | readLetter =>
      exact taking .popLocation fun location => looking .look fun grid =>
        looking (.require _) fun letter => of_sure (.advancing (.push letter))
  | jumpIndirect =>
      apply taking .popLocation
      intro location
      apply looking .look
      intro grid
      split
      · exact of_sure (.pure _)
      · exact throw _

/-- So does carrying out a word. -/
theorem executeWord (word : Word) : FailsEarly 2 (executeWord word) := by
  unfold Frame.executeWord
  split
  · exact of_sure (.pure _)
  · exact execute _

end Frame.FailsEarly

/-! ## Failing steps -/

/-- What a failing step of a thread leaves: the program, the pointer and the
observers are as before, the thread has lost at most two values from the top of
its memory, the journal has at most the entry that announces the instruction,
and a fault names the thread and the place of the instruction. -/
structure Scene.Abandoned (scene : Scene) (failure : Failure) (next : Scene) : Prop where
  program : next.program = scene.program
  thread : ∃ taken, taken ≤ 2 ∧
    next.thread = { scene.thread with memory := scene.thread.memory.drop taken }
  monitor : ∃ location, scene.thread.pointer = some location ∧
    (next.monitor = scene.monitor ∨ next.monitor = scene.monitor.write
      (.stepping (scene.thread.stateAt scene.program location)))
  fault : ∀ fault, failure = .fault fault →
    fault.thread = some scene.thread.name ∧ fault.location = scene.thread.pointer

/-- A fault that an instruction raises gets the thread and the place of the
instruction. -/
theorem Failure.OfInstruction.arisingIn {raised : Failure} (own : raised.OfInstruction)
    {name : String} {location : Location} {fault : Fault}
    (fault_eq : raised.arisingIn name location = .fault fault) :
    fault.thread = some name ∧ fault.location = some location := by
  cases own with
  | fault cause =>
      cases fault_eq
      exact ⟨rfl, rfl⟩
  | overlong => cases fault_eq
  | overlongNumeral digits => cases fault_eq

theorem Scene.abandoned_of_step_eq_error {scene next : Scene} {failure : Failure}
    (moderate : scene.program.grid.Moderate) (moderateAfter : next.program.grid.Moderate)
    (failed : step scene = .error failure next) : scene.Abandoned failure next := by
  obtain ⟨location, running, outcome⟩ := step_eq_error moderateAfter failed
  rcases outcome with ⟨rfl, rfl⟩ | ⟨raised, frame, performed, rfl, rfl⟩
  · -- The place of the instruction cannot be written; nothing has been done.
    refine ⟨rfl, ⟨0, Nat.zero_le 2, rfl⟩, ⟨location, running, .inl rfl⟩, ?_⟩
    intro fault fault_eq
    cases fault_eq
  · have executed := Frame.perform_eq_error performed
    have own := (Frame.Built.executeWord _).ofInstruction executed
    obtain ⟨taken, taken_le, rfl⟩ :=
      Frame.FailsEarly.executeWord _ (scene.frame location) raised frame moderate executed
    refine ⟨rfl, ⟨taken, taken_le, ?_⟩, ⟨location, running, .inr rfl⟩, ?_⟩
    · change ({ scene.thread with
        pointer := some location
        memory := scene.thread.memory.drop taken } : Thread) = _
      rw [← running]
    · intro fault fault_eq
      rw [running]
      exact own.arisingIn fault_eq

/-- A failing step of a machine is one of the thread under its cursor. -/
theorem Machine.step_eq_error {machine next : Machine} {monitor left : Monitor}
    {failure : Failure} (failed : step (machine, monitor) = .error failure (next, left)) :
    ∃ thread scene, machine.threads[machine.cursor]? = some thread ∧
      Scene.step ⟨thread, machine.program, monitor⟩ = .error failure scene ∧
      next = { machine with
        program := scene.program
        threads := machine.threads.set machine.cursor scene.thread } ∧
      left = scene.monitor := by
  cases under : machine.threads[machine.cursor]? with
  | none =>
      rw [step_of_idle under] at failed
      cases failed
  | some thread =>
      cases stepped : Scene.step ⟨thread, machine.program, monitor⟩ with
      | ok value scene =>
          obtain ⟨told, step_eq⟩ := step_of_scene_ok under stepped
          rw [step_eq] at failed
          cases failed
      | error raised scene =>
          rw [step_of_scene_error under stepped] at failed
          injection failed with failure_eq state_eq
          injection state_eq with machine_eq monitor_eq
          exact ⟨thread, scene, rfl, failure_eq ▸ stepped, machine_eq.symm, monitor_eq.symm⟩

/-- The machine after a step that has been given up: the thread under the cursor has
lost some values from the top of its memory. -/
def Machine.abandoned (machine : Machine) (thread : Thread) (taken : Nat) : Machine :=
  { machine with
    threads := machine.threads.set machine.cursor
      { thread with memory := thread.memory.drop taken } }

/-- A step that fails is given up by the thread under the cursor, and nobody is told. -/
theorem Machine.abandoned_of_step_eq_error {machine next : Machine} {monitor told : Monitor}
    {failure : Failure} (moderate : machine.program.grid.Moderate)
    (moderateAfter : next.program.grid.Moderate)
    (failed : step (machine, monitor) = .error failure (next, told)) :
    ∃ thread taken, machine.threads[machine.cursor]? = some thread ∧ taken ≤ 2 ∧
      next = machine.abandoned thread taken ∧ told.observers = monitor.observers := by
  obtain ⟨thread, ⟨left, program, heard⟩, under, sceneFailed, rfl, rfl⟩ := step_eq_error failed
  have leaves := Scene.abandoned_of_step_eq_error moderate moderateAfter sceneFailed
  obtain ⟨taken, taken_le, thread_eq⟩ := leaves.thread
  have thread_eq : left = { thread with memory := thread.memory.drop taken } := thread_eq
  have program_eq : program = machine.program := leaves.program
  subst thread_eq program_eq
  refine ⟨thread, taken, under, taken_le, rfl, ?_⟩
  obtain ⟨_, _, heard_eq | heard_eq⟩ := leaves.monitor
  · exact congrArg Monitor.observers heard_eq
  · exact (congrArg Monitor.observers heard_eq :)

/-- A failing step edits nothing, whatever the instruction and the update mode:
a thread is left as `Scene.Abandoned` says. A machine keeps everything but the
values that the thread under its cursor has lost. All grids are taken to be
moderate. -/
theorem failing_step_edits_nothing :
    (∀ scene failure next, scene.program.grid.Moderate → next.program.grid.Moderate →
      Scene.step scene = .error failure next → scene.Abandoned failure next) ∧
    (∀ machine monitor failure next left, machine.program.grid.Moderate →
      next.program.grid.Moderate →
      Machine.step (machine, monitor) = .error failure (next, left) →
      ∃ thread abandoned, machine.threads[machine.cursor]? = some thread ∧
        next = { machine with threads := machine.threads.set machine.cursor abandoned } ∧
        Scene.Abandoned ⟨thread, machine.program, monitor⟩ failure
          ⟨abandoned, machine.program, left⟩) := by
  constructor
  · intro scene failure next moderate moderateAfter failed
    exact Scene.abandoned_of_step_eq_error moderate moderateAfter failed
  · intro machine monitor failure next left moderate moderateAfter failed
    obtain ⟨thread, ⟨abandoned, program, told⟩, under, stepped, rfl, rfl⟩ :=
      Machine.step_eq_error failed
    have leaves := Scene.abandoned_of_step_eq_error moderate moderateAfter stepped
    have program_eq : program = machine.program := leaves.program
    subst program_eq
    exact ⟨thread, abandoned, under, rfl, leaves⟩

theorem failing_step_edits_nothing_underflow :
    Scene.Abandoned (.alone "n q" ⟨0, 0⟩ ["x"]) (.fault ⟨.emptyMemory, some "main", some ⟨0, 0⟩⟩)
        (.alone "n q" ⟨0, 0⟩ []) ∧
      ∃ thread abandoned, [(Scene.alone "n q" ⟨0, 0⟩ ["x"]).thread][0]? = some thread ∧
        (⟨.load "n q".toList false, [(Scene.alone "n q" ⟨0, 0⟩ []).thread], 0, 4, 1⟩ : Machine) =
          ⟨.load "n q".toList false, [abandoned], 0, 4, 1⟩ ∧
        Scene.Abandoned ⟨thread, .load "n q".toList false, (Scene.alone "" ⟨0, 0⟩ []).monitor⟩
          (.fault ⟨.emptyMemory, some "main", some ⟨0, 0⟩⟩)
          ⟨abandoned, .load "n q".toList false, (Scene.alone "" ⟨0, 0⟩ []).monitor⟩ := by
  have stepped : Scene.step (.alone "n q" ⟨0, 0⟩ ["x"]) =
      .error (.fault ⟨.emptyMemory, some "main", some ⟨0, 0⟩⟩) (.alone "n q" ⟨0, 0⟩ []) := by
    decide +kernel
  have failed : Machine.step
      (⟨.load "n q".toList false, [(Scene.alone "n q" ⟨0, 0⟩ ["x"]).thread], 0, 4, 1⟩,
        (Scene.alone "" ⟨0, 0⟩ []).monitor) =
      .error (.fault ⟨.emptyMemory, some "main", some ⟨0, 0⟩⟩)
        (⟨.load "n q".toList false, [(Scene.alone "n q" ⟨0, 0⟩ []).thread], 0, 4, 1⟩,
          (Scene.alone "" ⟨0, 0⟩ []).monitor) := by
    decide +kernel
  constructor
  · exact failing_step_edits_nothing.1 _ _ _ (by decide +kernel) (by decide +kernel) stepped
  · exact failing_step_edits_nothing.2 _ _ _ _ _ (by decide +kernel) (by decide +kernel) failed

end Palimpsest

import Palimpsest.Proofs.Session.Pointers
import Palimpsest.Proofs.Session.Receipt
import Palimpsest.Proofs.Session.Status
import Palimpsest.Proofs.Thread.Overflow

/-!
# What escapes a session

A step and a run either return or hand on that the limit on digits has been met, and
the latter only while a thread carries out one of the three operations that may meet
it. A machine with live threads always has one of them under its cursor, so there is
never nobody to run. When a failure is handed on, everything but two values of the
failing thread at most is as it was before the instruction. Every fault freezes the
session instead, and the call returns.
-/

namespace Palimpsest

namespace Machine

/-- The cursor of a machine stands at a thread whatever is done to the machine. -/
theorem Act.cursorStands {machine next : Machine} (act : machine.Act next)
    (stands : machine.CursorStands) : next.CursorStands := by
  cases act with
  | join monitor name ink addresses =>
      unfold startThread
      dsimp only
      split
      · exact stands
      · split
        · exact (stands.rota_joined _).2
        · exact (stands.rota_joined _).2
  | step monitor =>
      cases under : machine.threads[machine.cursor]? with
      | none =>
          rw [step_of_idle under]
          exact stands
      | some thread =>
          cases stepped : Scene.step ⟨thread, machine.program, monitor⟩ with
          | ok value scene =>
              obtain ⟨told, step_eq⟩ := step_of_scene_ok under stepped
              rw [step_eq]
              exact (rota_afterStep scene.thread scene.program under).2
          | error failure scene =>
              rw [step_of_scene_error under stepped]
              left
              simpa [leftBy] using (List.getElem?_eq_some_iff.mp under).1
  | redraw => exact stands

theorem CursorStands.exists_thread {machine : Machine} (stands : machine.CursorStands)
    (live : machine.isRunning = true) :
    ∃ thread, machine.threads[machine.cursor]? = some thread := by
  rcases stands with inside | ⟨empty, _⟩
  · exact ⟨_, List.getElem?_eq_getElem inside⟩
  · rw [isRunning, empty] at live
    cases live

/-- A step fails with a fault or with the limit on digits. -/
theorem failure_of_step_eq_error {machine next : Machine} {monitor told : Monitor}
    {failure : Failure} {thread : Thread} (legible : machine.Legible)
    (moderate : machine.program.grid.Moderate) (moderateAfter : next.program.grid.Moderate)
    (under : machine.threads[machine.cursor]? = some thread)
    (failed : step (machine, monitor) = .error failure (next, told)) :
    (∃ fault, failure = .fault fault) ∨
      failure.exceedsDigits = true ∧
        ∃ opcode, thread.opcode? machine.program = some opcode ∧ opcode.mayOverflow = true := by
  obtain ⟨running, scene, runningUnder, sceneFailed, next_eq, _⟩ := step_eq_error failed
  cases under.symm.trans runningUnder
  rw [next_eq] at moderateAfter
  have fits := legible.pointers thread (List.mem_of_getElem? under)
  exact Scene.failure_of_step_eq_error moderate moderateAfter fits sceneFailed

end Machine

namespace Session

/-! ## Attempted steps -/

/-- Steps one after the other, all of which have carried out an instruction. -/
inductive Steps : Nat → Session → Session → Prop
  | refl (session : Session) : Steps 0 session session
  | head {count : Nat} {session next last : Session} (live : session.hasThreads = true)
      (stepped : step session = .ok true next) (rest : Steps count next last) :
      Steps (count + 1) session last

/-- The sessions in which a call has the machine make a step. A run first forgets its
status, and makes as many steps as its budget allows. -/
inductive Attempts (session : Session) : Call → Session → Prop
  | step {machine : Machine} {before : Session}
      (ensured : ensureMachine session = .ok machine before)
      (calm : before.status ≠ some .error) (live : before.hasThreads = true) :
      Attempts session .step before
  | run {machine : Machine} {ready before : Session} {limit : Option Int} {count : Nat}
      (ensured : ensureMachine session = .ok machine ready)
      (calm : ready.status ≠ some .error)
      (within : count < (limit.getD ready.options.maxSteps).toNat)
      (steps : Steps count { ready with status := none } before)
      (live : before.hasThreads = true) : Attempts session (.run limit) before

namespace Steps

variable {session before : Session} {count : Nat}

theorem follows (steps : Steps count session before) : session.Follows before := by
  induction steps with
  | refl session => exact .refl session
  | @head _ session next _ live stepped rest inductionHypothesis =>
      have follows := Drives.step session
      rw [stepped] at follows
      exact follows.trans inductionHypothesis

theorem calm (steps : Steps count session before) (calm : session.status ≠ some .error) :
    before.status ≠ some .error := by
  induction steps with
  | refl session => exact calm
  | head live stepped rest inductionHypothesis =>
      exact inductionHypothesis (calm_of_step_eq_true stepped)

/-- A run goes on from where its first steps have led to. -/
theorem runSteps_eq (steps : Steps count session before) (total budget : Nat) :
    runSteps total (count + budget) session = runSteps total budget before := by
  induction steps with
  | refl session => rw [Nat.zero_add]
  | @head count session next _ live stepped rest inductionHypothesis =>
      rw [Nat.add_right_comm, runSteps_succ live, bind_of_ok stepped, if_pos rfl]
      exact inductionHypothesis

/-- The steps of a run that passes moderate grids only are moves between such grids. -/
theorem moves (steps : Steps count session before) (calm : session.status ≠ some .error)
    {total budget : Nat}
    (moderate : ∀ part, part ≤ count + budget →
      (leftBy (runSteps total part session)).grid.Moderate) :
    Moves session before ∧
      ∀ part, part ≤ budget → (leftBy (runSteps total part before)).grid.Moderate := by
  induction steps with
  | refl session => exact ⟨.refl, fun part part_le => moderate part (by omega)⟩
  | @head count session next _ live stepped rest inductionHypothesis =>
      have moderate : ∀ part, part ≤ (count + budget) + 1 →
          (leftBy (runSteps total part session)).grid.Moderate :=
        fun part part_le => moderate part (by omega)
      obtain ⟨moderateBefore, moderateAfter, moderateNext⟩ :=
        moderate_of_runSteps_succ live moderate
      have moves := moves_leftBy_step moderateBefore moderateAfter
      rw [stepped] at moves
      obtain ⟨movesThen, moderateThen⟩ :=
        inductionHypothesis (calm_of_step_eq_true stepped) (moderateNext next stepped)
      exact ⟨moves.trans movesThen, moderateThen⟩

theorem live (steps : Steps count session before) (live : before.hasThreads = true) :
    session.hasThreads = true := by
  cases steps with
  | refl => exact live
  | head liveFirst stepped rest => exact liveFirst

end Steps

/-- A run fails where one of its steps does. -/
theorem exists_steps_of_runSteps_eq_error {session left : Session} {failure : Failure}
    {total budget : Nat} (failed : runSteps total budget session = .error failure left) :
    ∃ count before, count < budget ∧ Steps count session before ∧ before.hasThreads = true ∧
      step before = .error failure left := by
  induction budget generalizing session with
  | zero =>
      cases live : session.hasThreads with
      | false =>
          rw [runSteps_of_idle live] at failed
          cases failed
      | true =>
          rw [runSteps_zero_of_live live] at failed
          cases failed
  | succ budget inductionHypothesis =>
      cases live : session.hasThreads with
      | false =>
          rw [runSteps_of_idle live] at failed
          cases failed
      | true =>
          rw [runSteps_succ live] at failed
          rcases bind_eq_error_iff.mp failed with failed | ⟨executed, next, stepped, failed⟩
          · exact ⟨0, session, Nat.succ_pos budget, .refl session, live, failed⟩
          · cases executed with
            | false => cases failed
            | true =>
                obtain ⟨count, before, within, steps, liveThen, failed⟩ :=
                  inductionHypothesis failed
                exact ⟨count + 1, before, Nat.succ_lt_succ within, .head live stepped steps,
                  liveThen, failed⟩

/-! ## What comes of an attempted step -/

/-- The session is about to have its machine make a step, on moderate grids: there is a
thread under the cursor, all threads stand inside the program, and their places can be
written. -/
structure Poised (session : Session) (machine : Machine) : Prop where
  started : session.machine = some machine
  calm : session.status ≠ some .error
  live : machine.isRunning = true
  stands : machine.CursorStands
  inside : ∀ thread ∈ machine.threads, thread.Stands machine.program
  legible : machine.Legible
  moderate : machine.program.grid.Moderate
  moderateAfter : (leftBy (Machine.step (machine, session.monitor))).1.program.grid.Moderate

/-- What a call leaves when it hands on that the limit on digits has been met: only the
thread that was carrying out its instruction has lost at most two values from the top of
its memory, and the journal may have more to tell. -/
def Escapes (before : Session) (failure : Failure) (left : Session) : Prop :=
  failure.exceedsDigits = true ∧
    ∃ machine thread opcode taken monitor, before.machine = some machine ∧
      machine.threads[machine.cursor]? = some thread ∧
      thread.opcode? machine.program = some opcode ∧
      (opcode = .math ∨ opcode = .move ∨ opcode = .addLine) ∧ taken ≤ 2 ∧
      monitor.observers = before.monitor.observers ∧
      left =
        { before with machine := some (machine.abandoned thread taken), monitor := monitor }

theorem Opcode.eq_of_mayOverflow {opcode : Opcode} (overflows : opcode.mayOverflow = true) :
    opcode = .math ∨ opcode = .move ∨ opcode = .addLine := by
  cases opcode with
  | math => exact .inl rfl
  | move => exact .inr (.inl rfl)
  | addLine => exact .inr (.inr rfl)
  | _ => cases overflows

theorem Poised.fault_or_escapes {before : Session} {machine next : Machine} {monitor : Monitor}
    {failure : Failure} (poised : before.Poised machine)
    (failed : Machine.step (machine, before.monitor) = .error failure (next, monitor)) :
    (∃ fault, failure = .fault fault) ∨
      before.Escapes failure { before with machine := some next, monitor := monitor } := by
  have moderateAfter : next.program.grid.Moderate := by
    have left := poised.moderateAfter
    rwa [failed] at left
  obtain ⟨thread, taken, under, taken_le, next_eq, heard⟩ :=
    Machine.abandoned_of_step_eq_error poised.moderate moderateAfter failed
  rcases Machine.failure_of_step_eq_error poised.legible poised.moderate moderateAfter under
    failed with faulty | ⟨exceeds, opcode, opcode_eq, overflows⟩
  · exact .inl faulty
  · right
    refine ⟨exceeds, machine, thread, opcode, taken, monitor, poised.started, under, opcode_eq,
      Opcode.eq_of_mayOverflow overflows, taken_le, heard, ?_⟩
    rw [next_eq]

section Attempted

variable {session before : Session} {call : Call} {machine next : Machine} {monitor : Monitor}

theorem Attempts.live (attempts : Attempts session call before) : before.hasThreads = true := by
  cases attempts with
  | step ensured calm live => exact live
  | run ensured calm within steps live => exact live

theorem Attempts.calm (attempts : Attempts session call before) :
    before.status ≠ some .error := by
  cases attempts with
  | step ensured calm live => exact calm
  | run ensured calm within steps live => exact steps.calm nofun

theorem Attempts.follows (attempts : Attempts session call before) : session.Follows before := by
  cases attempts with
  | step ensured calm live =>
      have follows := Drives.ensureMachine session
      rwa [ensured] at follows
  | @run machine ready _ limit count ensured calm within steps live =>
      have follows := Drives.ensureMachine session
      rw [ensured] at follows
      have cleared : ready.Follows { ready with status := none } := .of_engine_eq rfl
      exact (follows.trans cleared).trans steps.follows

/-- A session that has a machine steps as the one that was ensured to have it. -/
theorem step_of_ready {ready : Session} (ensured : ensureMachine session = .ok machine ready)
    (started : ready.hasThreads = true) : step session = step ready := by
  obtain ⟨running, machine_eq, _⟩ := hasThreads_iff.mp started
  have same : machine = running := by
    rw [machine_of_ensured ensured, machine_eq]
    rfl
  subst same
  rw [step_of_ensured ensured, step_of_ensured (ensureMachine_of_started machine_eq)]

theorem keepsError_syncView : Keeps error syncView := by
  intro session
  unfold syncView
  split
  · rfl
  · split <;> rfl

/-- A frozen session comes to rest as it is, but for the view. -/
theorem rest_of_frozen (started : session.machine = some machine)
    (harmed : session.status = some .error) :
    rest session = .ok .error (leftBy (syncView session)) := by
  have same : { session with status := some (session.status.getD (restingStatus machine)) } =
      session := by
    rw [harmed, Option.getD_some, ← harmed]
  rw [rest_of_started started, same, harmed]
  rfl

/-- A run whose budget is not used up by its first steps goes on with the next one. -/
theorem Steps.runSteps_of_lt {count budget : Nat} (steps : Steps count session before)
    (live : before.hasThreads = true) (within : count < budget) (total : Nat) :
    ∃ left, runSteps total budget session = (do
      if (← step) then runSteps total left : Action Unit) before := by
  obtain ⟨left, rfl⟩ := Nat.exists_eq_add_of_lt within
  exact ⟨left, by rw [Nat.add_assoc, steps.runSteps_eq, runSteps_succ live]⟩

/-- A call fails when a step that it attempts does. -/
theorem perform_of_step_error (attempts : Attempts session call before)
    {failure : Failure} {left : Session} (failed : step before = .error failure left) :
    perform call session = .error failure left := by
  cases attempts with
  | step ensured calm live =>
      rw [← step_of_ready ensured live] at failed
      exact bind_of_error failed
  | @run machine ready _ limit count ensured calm within steps live =>
      obtain ⟨budget, ran⟩ := steps.runSteps_of_lt live within
        (limit.getD ready.options.maxSteps).toNat
      rw [bind_of_error failed] at ran
      have failed : run limit session = .error failure left := by
        rw [run_of_ensured limit ensured, if_neg calm, bind_of_error ran]
      exact bind_of_error failed

/-- A call returns when a step that it attempts has frozen the session. -/
theorem perform_of_step_false (attempts : Attempts session call before) {left : Session}
    (stepped : step before = .ok false left) (started : left.machine = some machine)
    (harmed : left.status = some .error) :
    perform call session = .ok call.frozenAnswer left ∨
      perform call session = .ok call.frozenAnswer (leftBy (syncView left)) := by
  cases attempts with
  | step ensured calm live =>
      rw [← step_of_ready ensured live] at stepped
      exact .inl (bind_of_ok stepped)
  | @run machine ready _ limit count ensured calm within steps live =>
      obtain ⟨budget, ran⟩ := steps.runSteps_of_lt live within
        (limit.getD ready.options.maxSteps).toNat
      rw [bind_of_ok stepped] at ran
      have frozen : run limit session = .ok .error (leftBy (syncView left)) := by
        rw [run_of_ensured limit ensured, if_neg calm, bind_of_ok ran]
        exact rest_of_frozen started harmed
      exact .inr (bind_of_ok frozen)

/-- A fault of an attempted step freezes the session, and the call returns. -/
theorem perform_of_fault (attempts : Attempts session call before)
    (started : before.machine = some machine) {fault : Fault}
    (failed : Machine.step (machine, before.monitor) = .error (.fault fault) (next, monitor)) :
    ∃ left, perform call session = .ok call.frozenAnswer left ∧ left.status = some .error ∧
      left.error = some fault := by
  have live : machine.isRunning = true := by
    obtain ⟨running, machine_eq, live⟩ := hasThreads_iff.mp attempts.live
    cases started.symm.trans machine_eq
    exact live
  have stepped : step before = .ok false (leftBy (syncView
      (noting { before with machine := some next, monitor := monitor } fault))) := by
    rw [step_of_ensured (ensureMachine_of_started started), if_neg attempts.calm, if_pos live,
      bind_of_ok (stepMachine_of_fault failed)]
    rfl
  have syncedStarted := Move.isStarted (.sync _)
    (rfl : (noting { before with machine := some next, monitor := monitor } fault).isStarted =
      true)
  obtain ⟨last, last_eq⟩ := Option.isSome_iff_exists.mp syncedStarted
  have harmed : (leftBy (syncView (noting
      { before with machine := some next, monitor := monitor } fault))).status = some .error :=
    keepsStatus_syncView _
  have noted : (leftBy (syncView (noting
      { before with machine := some next, monitor := monitor } fault))).error = some fault :=
    keepsError_syncView _
  rcases perform_of_step_false attempts stepped last_eq harmed with returned | returned
  · exact ⟨_, returned, harmed, noted⟩
  · exact ⟨_, returned, (keepsStatus_syncView _).trans harmed,
      (keepsError_syncView _).trans noted⟩

end Attempted

/-- A call that fails has attempted a step that fails. -/
theorem exists_attempt_of_perform_eq_error {session left : Session} {call : Call}
    (asked : call = .step ∨ ∃ limit, call = .run limit) {failure : Failure}
    (moderate : session.grid.Moderate) (passes : session.PassesModerate call)
    (failed : perform call session = .error failure left) :
    ∃ before, Attempts session call before ∧ step before = .error failure left := by
  obtain ⟨machine, ready, ensured, started, _⟩ := exists_ensured moderate
  rcases asked with rfl | ⟨limit, rfl⟩
  · rcases bind_eq_error_iff.mp failed with failed | ⟨_, _, _, failed⟩
    · have outcome := stepOutcome ensured
      rw [failed] at outcome
      cases outcome with
      | failed calm live stepped faultless =>
          have readyLive : ready.hasThreads = true := hasThreads_iff.mpr ⟨machine, started, live⟩
          refine ⟨ready, .step ensured calm readyLive, ?_⟩
          rw [← step_of_ready ensured readyLive, failed]
    · cases failed
  · rcases bind_eq_error_iff.mp failed with failed | ⟨_, _, _, failed⟩
    · rw [run_of_ensured limit ensured] at failed
      split at failed
      · cases failed
      · rename_i calm
        rcases bind_eq_error_iff.mp failed with failed | ⟨_, finished, ran, failed⟩
        · obtain ⟨count, before, within, steps, live, failed⟩ :=
            exists_steps_of_runSteps_eq_error failed
          exact ⟨before, .run ensured calm within steps live, failed⟩
        · -- A started session always comes to rest.
          have moderateRun := passes.moderate_leftBy_runSteps ensured calm
            (limit.getD ready.options.maxSteps).toNat
          have cleared : ({ ready with status := none } : Session).status ≠ some .error := nofun
          have moves := moves_leftBy_runSteps cleared moderateRun
          rw [ran] at moves
          obtain ⟨last, last_eq⟩ : ∃ last, finished.machine = some last :=
            Moves.exists_machine moves started
          rw [rest_of_started last_eq] at failed
          cases failed
    · cases failed

/-! ## The state of a session that attempts a step -/

/-- The machine that an attempted step is made on comes from the one of the session by
moves, and both the step before and the step itself leave a moderate grid. -/
theorem Attempts.moves {session before : Session} {call : Call}
    (attempts : Attempts session call before) (moderate : session.grid.Moderate)
    (passes : session.PassesModerate call) :
    Moves session before ∧ before.grid.Moderate ∧
      (leftBy (Session.step before)).grid.Moderate := by
  obtain ⟨machine, ready, ensured, started, moves⟩ := exists_ensured moderate
  cases attempts with
  | step ensuredThen calm live =>
      cases ensured.symm.trans ensuredThen
      refine ⟨moves, ?_, ?_⟩
      · rw [(grid_of_ensured ensured).1]
        exact moderate
      · rw [← step_of_ready ensured live]
        exact passes.moderate_leftBy_step
  | @run _ _ _ limit count ensuredThen calm within steps live =>
      cases ensured.symm.trans ensuredThen
      have clearedLive := steps.live live
      obtain ⟨running, machine_eq, isRunning⟩ := hasThreads_iff.mp clearedLive
      have resumed : Moves ready { ready with status := none } :=
        .single (.resume machine_eq calm isRunning)
      obtain ⟨budget, budget_eq⟩ := Nat.exists_eq_add_of_lt within
      have moderateRun := passes.moderate_leftBy_runSteps ensured calm 0
      rw [budget_eq, Nat.add_assoc] at moderateRun
      obtain ⟨stepped, moderateThen⟩ := steps.moves nofun moderateRun
      obtain ⟨moderateBefore, moderateAfter, _⟩ := moderate_of_runSteps_succ live moderateThen
      exact ⟨(moves.trans resumed).trans stepped, moderateBefore, moderateAfter⟩

theorem Attempts.poised {session before : Session} {call : Call}
    (attempts : Attempts session call before) (legible : session.Legible)
    (stands : session.currentMachine.CursorStands)
    (inside : ∀ thread ∈ session.currentMachine.threads,
      thread.Stands session.currentMachine.program)
    (moderate : session.grid.Moderate) (passes : session.PassesModerate call) :
    ∃ machine, before.Poised machine := by
  obtain ⟨machine, started, live⟩ := hasThreads_iff.mp attempts.live
  have current : before.currentMachine = machine := by
    rw [currentMachine, started]
    rfl
  have acts : session.currentMachine.Acts machine := current ▸ attempts.follows.acts
  obtain ⟨moves, moderateBefore, moderateAfter⟩ := attempts.moves moderate passes
  rw [grid_leftBy_step_of_running (ensureMachine_of_started started) attempts.calm live]
    at moderateAfter
  have sound : machine.Sound (fun _ => True) fun program thread => thread.Stands program :=
    acts.keep Machine.lasting_stands.sound ⟨trivial, inside⟩
  exact ⟨machine, {
    started := started
    calm := attempts.calm
    live := live
    stands := acts.keep Machine.Act.cursorStands stands
    inside := sound.2
    legible := (Moves.keep Move.legible moves legible).machine machine started
    moderate := by
      rw [grid, currentProgram, started] at moderateBefore
      exact moderateBefore
    moderateAfter := moderateAfter }⟩

/-- After any calls on any text, a step and a run return or hand on that the limit on
digits has been met. In the latter case a step has been attempted in which the thread
under the cursor was carrying out one of the three operations that may meet it, and all
but two values of its memory at most is as it was before. Wherever a step is attempted
there is a thread under the cursor with a pointer inside the program, and if the step
fails, it escapes in this way or the call returns from a session that is frozen by a
fault. All grids are taken to be moderate. -/
theorem only_digit_limit_escapes (text : Text) (options : Options) (path : Option String)
    (stamp : Stamp) (observers : List Observer) (threshold : Int) (calls : List Call) (call : Call)
    (asked : call = .step ∨ ∃ limit, call = .run limit)
    (stays : (create text options path stamp observers threshold).StaysModerate
      (calls ++ [call])) :
    let session := (create text options path stamp observers threshold).afterAll calls
    (∀ failure left, perform call session = .error failure left →
      ∃ before, Attempts session call before ∧ before.Escapes failure left) ∧
    (∀ before, Attempts session call before → ∃ machine thread,
      before.machine = some machine ∧ machine.threads[machine.cursor]? = some thread ∧
      thread.Stands machine.program ∧
      ∀ failure next monitor,
        Machine.step (machine, before.monitor) = .error failure (next, monitor) →
        (∃ left, perform call session = .error failure left ∧ before.Escapes failure left) ∨
        (∃ fault left, failure = .fault fault ∧
          perform call session = .ok call.frozenAnswer left ∧ left.status = some .error ∧
          left.error = some fault)) := by
  intro session
  obtain ⟨staysBefore, moderate, passes, _⟩ := stays.of_append
  have legible : session.Legible := Moves.keep Move.legible (moves_afterAll staysBefore)
    (legible_create text options path stamp observers threshold)
  have stands : session.currentMachine.CursorStands :=
    holds_afterAll Machine.Act.cursorStands (.inr ⟨rfl, rfl⟩) (.inr ⟨rfl, rfl⟩) calls
  have inside := (sound_afterAll Machine.lasting_stands text options path stamp observers
    threshold trivial calls).2
  constructor
  · intro failure left failed
    obtain ⟨before, attempts, stepFailed⟩ :=
      exists_attempt_of_perform_eq_error asked moderate passes failed
    obtain ⟨machine, poised⟩ := attempts.poised legible stands inside moderate passes
    have outcome := stepOutcome (ensureMachine_of_started poised.started)
    rw [stepFailed] at outcome
    cases outcome with
    | failed calm live stepped faultless =>
        rcases poised.fault_or_escapes stepped with ⟨fault, faulty⟩ | escapes
        · exact absurd faulty (faultless fault)
        · exact ⟨before, attempts, escapes⟩
  · intro before attempts
    obtain ⟨machine, poised⟩ := attempts.poised legible stands inside moderate passes
    obtain ⟨thread, under⟩ := poised.stands.exists_thread poised.live
    refine ⟨machine, thread, poised.started, under,
      poised.inside thread (List.mem_of_getElem? under), ?_⟩
    intro failure next monitor failed
    rcases poised.fault_or_escapes failed with ⟨fault, rfl⟩ | escapes
    · obtain ⟨left, returned, harmed, noted⟩ := perform_of_fault attempts poised.started failed
      exact .inr ⟨fault, left, rfl, returned, harmed, noted⟩
    · have faultless : ∀ fault, failure ≠ .fault fault := by
        rintro fault rfl
        cases escapes.1
      have stepFailed : step before =
          .error failure { before with machine := some next, monitor := monitor } := by
        rw [step_of_ensured (ensureMachine_of_started poised.started), if_neg poised.calm,
          if_pos poised.live, bind_of_error (stepMachine_of_error failed faultless)]
      exact .inl ⟨_, perform_of_step_error attempts stepFailed, escapes⟩

/-- A value is to be dropped where there is none: a run returns from a frozen session. -/
theorem only_digit_limit_escapes_underflow :
    let session := (create "-- volute\nu".toList ⟨false, 5, true⟩ none ⟨"now", "one"⟩ [.reporter 10]
      10).afterAll [.start]
    ∃ left, perform (.run none) session = .ok (.rested .error) left ∧
      left.error = some ⟨.emptyMemory, some "main", some ⟨1, 0⟩⟩ := by
  intro session
  have started : session.machine = some session.currentMachine := by decide +kernel
  have live : session.hasThreads = true := by decide +kernel
  have cleared : ({ session with status := none } : Session) = session := by decide +kernel
  have steps : Steps 0 { session with status := none } session := by
    rw [cleared]
    exact .refl session
  have attempts : Attempts session (.run none) session :=
    .run (ensureMachine_of_started started) (by decide +kernel) (by decide +kernel) steps live
  obtain ⟨_, outcome⟩ := only_digit_limit_escapes "-- volute\nu".toList ⟨false, 5, true⟩ none
    ⟨"now", "one"⟩ [.reporter 10] 10 [.start] (.run none) (.inr ⟨none, rfl⟩) (by decide +kernel)
  obtain ⟨machine, thread, machine_eq, _, _, outcome⟩ := outcome session attempts
  rw [← Option.some.inj (started.symm.trans machine_eq)] at outcome
  obtain ⟨next, monitor, failed⟩ : ∃ next monitor,
      Machine.step (session.currentMachine, session.monitor) =
        .error (.fault ⟨.emptyMemory, some "main", some ⟨1, 0⟩⟩) (next, monitor) :=
    ⟨(leftBy (Machine.step (session.currentMachine, session.monitor))).1,
      (leftBy (Machine.step (session.currentMachine, session.monitor))).2, by decide +kernel⟩
  rcases outcome _ _ _ failed with ⟨_, _, exceeds, _⟩ | ⟨fault, left, same, returned, _, noted⟩
  · cases exceeds
  · cases same
    exact ⟨left, returned, noted⟩

end Session

end Palimpsest

import Palimpsest.Proofs.Session.Escapes
import Palimpsest.Proofs.Session.Twins
import Palimpsest.Proofs.Session.View

/-!
# Budgets of steps

A run makes steps until no thread is live, until a step faults or fails, or until its
budget is used up. `RunOutcome` says so of the steps, with the number that were made,
and `RunEnd` of the run as a whole; the count of the machine grows by exactly that
number. A run that is cut off by its budget and then resumed goes on where it was: a
budget may be spent in two runs instead of one. Only the remark on the timeout and the
view in between tell the two apart.
-/

namespace Palimpsest.Session

/-! ## How the steps of a run end -/

/-- What up to `budget` steps come to, `total` being what the budget is called. -/
inductive RunOutcome (session : Session) (total budget : Nat) :
    EStateM.Result Failure Session Unit → Prop
  /-- No thread is live any more. -/
  | rested {count : Nat} {last : Session} (within : count ≤ budget)
      (steps : Steps count session last) (idle : last.hasThreads = false) :
      RunOutcome session total budget (.ok () last)
  /-- A step carries out nothing although a thread is live. -/
  | halted {count : Nat} {before last : Session} (within : count < budget)
      (steps : Steps count session before) (live : before.hasThreads = true)
      (stepped : step before = .ok false last) :
      RunOutcome session total budget (.ok () last)
  /-- The budget is used up. -/
  | exhausted {last : Session} (steps : Steps budget session last)
      (live : last.hasThreads = true) :
      RunOutcome session total budget (.ok ()
        (remarked { last with status := some .timeout } .warning "timeout"
          ("stopped after " ++ toString total ++ " steps")))
  /-- A step fails. -/
  | failed {count : Nat} {before left : Session} {failure : Failure} (within : count < budget)
      (steps : Steps count session before) (live : before.hasThreads = true)
      (failed : step before = .error failure left) :
      RunOutcome session total budget (.error failure left)

theorem runOutcome (session : Session) (total budget : Nat) :
    RunOutcome session total budget (runSteps total budget session) := by
  induction budget generalizing session with
  | zero =>
      cases live : session.hasThreads with
      | false =>
          rw [runSteps_of_idle live]
          exact .rested (Nat.le_refl 0) (.refl session) live
      | true =>
          rw [runSteps_zero_of_live live]
          exact .exhausted (.refl session) live
  | succ budget inductionHypothesis =>
      cases live : session.hasThreads with
      | false =>
          rw [runSteps_of_idle live]
          exact .rested (Nat.zero_le _) (.refl session) live
      | true =>
          rw [runSteps_succ live]
          cases stepped : step session with
          | error failure left =>
              rw [bind_of_error stepped]
              exact .failed (Nat.succ_pos budget) (.refl session) live stepped
          | ok executed next =>
              rw [bind_of_ok stepped]
              cases executed with
              | false => exact .halted (Nat.succ_pos budget) (.refl session) live stepped
              | true =>
                  have outcome := inductionHypothesis next
                  rw [if_pos rfl]
                  generalize runSteps total budget next = result at outcome ⊢
                  cases outcome with
                  | rested within steps idle =>
                      exact .rested (Nat.succ_le_succ within) (.head live stepped steps) idle
                  | halted within steps liveThen steppedThen =>
                      exact .halted (Nat.succ_lt_succ within) (.head live stepped steps) liveThen
                        steppedThen
                  | exhausted steps liveThen =>
                      exact .exhausted (.head live stepped steps) liveThen
                  | failed within steps liveThen failed =>
                      exact .failed (Nat.succ_lt_succ within) (.head live stepped steps) liveThen
                        failed

namespace Steps

variable {session before last : Session} {machine : Machine} {count budget : Nat}

/-- Steps that have led to rest are all the steps that a larger budget allows. -/
theorem runSteps_of_idle (steps : Steps count session last) (idle : last.hasThreads = false)
    (within : count ≤ budget) (total : Nat) : runSteps total budget session = .ok () last := by
  obtain ⟨more, rfl⟩ := Nat.exists_eq_add_of_le within
  rw [steps.runSteps_eq, Session.runSteps_of_idle idle]

theorem runSteps_of_halted (steps : Steps count session before)
    (live : before.hasThreads = true) (stepped : step before = .ok false last)
    (within : count < budget) (total : Nat) : runSteps total budget session = .ok () last := by
  obtain ⟨more, ran⟩ := steps.runSteps_of_lt live within total
  rw [ran, bind_of_ok stepped]
  rfl

theorem runSteps_of_failed (steps : Steps count session before)
    (live : before.hasThreads = true) {failure : Failure}
    (failed : step before = .error failure last) (within : count < budget) (total : Nat) :
    runSteps total budget session = .error failure last := by
  obtain ⟨more, ran⟩ := steps.runSteps_of_lt live within total
  rw [ran, bind_of_error failed]

/-- Every step that carries out an instruction is counted. -/
theorem stepCount_eq (steps : Steps count session last) (started : session.machine = some machine)
    (stands : machine.CursorStands) :
    ∃ lastMachine, last.machine = some lastMachine ∧ lastMachine.CursorStands ∧
      lastMachine.stepCount = machine.stepCount + count := by
  induction steps generalizing machine with
  | refl session => exact ⟨machine, started, stands, rfl⟩
  | @head count session next last live stepped rest inductionHypothesis =>
      have outcome := stepOutcome (ensureMachine_of_started started)
      rw [stepped] at outcome
      cases outcome with
      | @executed next monitor calm running machineStepped =>
          obtain ⟨thread, under⟩ := stands.exists_thread running
          rcases Machine.step_eq_ok machineStepped with
            ⟨nobody, _⟩ | ⟨_, scene, thread_eq, _, rfl⟩
          · rw [under] at nobody
            cases nobody
          · obtain ⟨lastMachine, lastStarted, lastStands, count_eq⟩ :=
              inductionHypothesis rfl (Machine.rota_afterStep scene.thread scene.program under).2
            refine ⟨lastMachine, lastStarted, lastStands, ?_⟩
            have counted : (machine.afterStep scene.thread scene.program).stepCount =
                machine.stepCount + 1 := rfl
            omega

/-- As long as threads are live, steps leave no status. When none is live any more,
the session may have settled. -/
theorem status_eq (steps : Steps count session last) (unsettled : session.status = none)
    (started : last.machine = some machine) :
    last.status = none ∨
      machine.isRunning = false ∧ last.status = some (restingStatus machine) := by
  induction steps with
  | refl session => exact .inl unsettled
  | @head count session next last live stepped rest inductionHypothesis =>
      obtain ⟨running, runningStarted, _⟩ := hasThreads_iff.mp live
      have outcome := stepOutcome (ensureMachine_of_started runningStarted)
      rw [stepped] at outcome
      cases outcome with
      | @executed nextMachine monitor _ _ _ =>
          cases nextRunning : nextMachine.isRunning with
          | true =>
              apply inductionHypothesis _ started
              simp only [nextRunning, if_true, unsettled]
          | false =>
              -- No step follows one that has left no live thread.
              cases rest with
              | refl =>
                  cases started
                  exact .inr ⟨nextRunning, by simp [nextRunning]⟩
              | head liveNext _ _ => simp [hasThreads, nextRunning] at liveNext

theorem exists_machine (steps : Steps count session last)
    (started : session.machine = some machine) :
    ∃ lastMachine, last.machine = some lastMachine := by
  induction steps generalizing machine with
  | refl session => exact ⟨machine, started⟩
  | head live stepped rest inductionHypothesis =>
      have outcome := stepOutcome (ensureMachine_of_started started)
      rw [stepped] at outcome
      cases outcome with
      | executed => exact inductionHypothesis rfl

theorem twin_self {same : Program → Program → Prop} {counts : Remark → Bool}
    (steps : Steps count session last) (bond : Program.Bond same)
    (twin : session.Twin same counts session) : last.Twin same counts last := by
  induction steps with
  | refl session => exact twin
  | head live stepped rest inductionHypothesis =>
      have left := (twin.sameOutcome_step bond).leftBy
      rw [stepped] at left
      exact inductionHypothesis left

end Steps

/-! ## How a run ends -/

variable {session other : Session} {machine : Machine}

/-- A session that has no status, or the one that its machine rests with, comes to rest
with the latter. -/
theorem rest_of_unsettled (started : session.machine = some machine)
    (unsettled : session.status = none ∨ session.status = some (restingStatus machine)) :
    rest session = .ok (restingStatus machine)
      (leftBy (syncView { session with status := some (restingStatus machine) })) := by
  have settles : session.status.getD (restingStatus machine) = restingStatus machine := by
    rcases unsettled with none | settled
    · rw [none, Option.getD_none]
    · rw [settled, Option.getD_some]
  rw [rest_of_started started, settles]

theorem exists_machine_leftBy_syncView (started : session.machine = some machine) :
    ∃ synced, (leftBy (syncView session)).machine = some synced ∧ synced.Alike machine := by
  obtain ⟨program, monitor, alike, sync_eq⟩ := syncView_of_started started
  rw [sync_eq]
  exact ⟨{ machine with program := program }, rfl, alike, rfl, rfl, rfl, rfl⟩

/-- A step that carries out nothing although a thread is live has met a fault. It is
not counted. -/
theorem frozen_of_step_eq_false {last : Session} (started : session.machine = some machine)
    (calm : session.status ≠ some .error) (live : session.hasThreads = true)
    (stepped : step session = .ok false last) :
    last.status = some .error ∧ ∃ lastMachine, last.machine = some lastMachine ∧
      lastMachine.stepCount = machine.stepCount := by
  have outcome := stepOutcome (ensureMachine_of_started started)
  rw [stepped] at outcome
  cases outcome with
  | frozen harmed => exact absurd harmed calm
  | settled _ idle => simp [hasThreads, started, idle] at live
  | @faulted next monitor fault _ _ failed =>
      obtain ⟨_, _, _, _, next_eq, _⟩ := Machine.step_eq_error failed
      have noted :
          (noting { session with machine := some next, monitor := monitor } fault).machine =
            some next := rfl
      obtain ⟨lastMachine, lastStarted, alike⟩ := exists_machine_leftBy_syncView noted
      refine ⟨keepsStatus_syncView _, lastMachine, lastStarted, ?_⟩
      rw [alike.stepCount, next_eq]

/-- What a run comes to on a session that is ready with its machine and is not frozen. In
the end its view is brought up to date. -/
inductive RunEnd (ready : Session) (budget : Nat) : EStateM.Result Failure Session Status → Prop
  /-- No thread is live any more, and the session settles. -/
  | settled {count : Nat} {last : Session} {machine : Machine} (within : count ≤ budget)
      (steps : Steps count { ready with status := none } last)
      (started : last.machine = some machine) (idle : machine.isRunning = false) :
      RunEnd ready budget (.ok (restingStatus machine)
        (leftBy (syncView { last with status := some (restingStatus machine) })))
  /-- A fault has frozen the session. -/
  | frozen {count : Nat} {before last : Session} {machine : Machine} (within : count < budget)
      (steps : Steps count { ready with status := none } before)
      (live : before.hasThreads = true) (stepped : step before = .ok false last)
      (started : last.machine = some machine) (harmed : last.status = some .error) :
      RunEnd ready budget (.ok .error (leftBy (syncView last)))
  /-- The budget is used up. -/
  | timedOut {last : Session} {machine : Machine}
      (steps : Steps budget { ready with status := none } last)
      (started : last.machine = some machine) (live : machine.isRunning = true) :
      RunEnd ready budget (.ok .timeout (leftBy (syncView
        (remarked { last with status := some .timeout } .warning "timeout"
          ("stopped after " ++ toString budget ++ " steps")))))
  /-- A step fails. -/
  | failed {count : Nat} {before left : Session} {failure : Failure} (within : count < budget)
      (steps : Steps count { ready with status := none } before)
      (live : before.hasThreads = true) (failed : step before = .error failure left) :
      RunEnd ready budget (.error failure left)

theorem runEnd {ready : Session} (ensured : ensureMachine session = .ok machine ready)
    (calm : ready.status ≠ some .error) (limit : Option Int) :
    RunEnd ready (limit.getD ready.options.maxSteps).toNat (run limit session) := by
  have started := started_of_ensured ensured
  rw [run_of_ensured limit ensured, if_neg calm]
  generalize (limit.getD ready.options.maxSteps).toNat = budget
  have outcome := runOutcome { ready with status := none } budget budget
  generalize ran : runSteps budget budget { ready with status := none } = result at outcome
  cases outcome with
  | rested within steps idle =>
      obtain ⟨lastMachine, lastStarted⟩ := steps.exists_machine started
      have unsettled := (steps.status_eq rfl lastStarted).imp_right And.right
      rw [bind_of_ok ran, rest_of_unsettled lastStarted unsettled]
      exact .settled within steps lastStarted (by simpa [hasThreads, lastStarted] using idle)
  | halted within steps live stepped =>
      obtain ⟨beforeMachine, beforeStarted, _⟩ := hasThreads_iff.mp live
      obtain ⟨harmed, lastMachine, lastStarted, _⟩ :=
        frozen_of_step_eq_false beforeStarted (steps.calm (by simp)) live stepped
      rw [bind_of_ok ran, rest_of_frozen lastStarted harmed]
      exact .frozen within steps live stepped lastStarted harmed
  | @exhausted last steps live =>
      obtain ⟨lastMachine, lastStarted, running⟩ := hasThreads_iff.mp live
      have timedStarted : (remarked { last with status := some .timeout } .warning "timeout"
          ("stopped after " ++ toString budget ++ " steps")).machine = some lastMachine :=
        lastStarted
      rw [bind_of_ok ran, rest_of_started timedStarted]
      exact @RunEnd.timedOut ready budget last lastMachine steps lastStarted running
  | failed within steps live stepFailed =>
      rw [bind_of_error ran]
      exact .failed within steps live stepFailed

theorem restingStatus_cases (machine : Machine) :
    restingStatus machine = .halted ∨ restingStatus machine = .waiting := by
  unfold restingStatus
  split <;> simp

/-- A run returns the status of the session that it leaves, which has a machine then. No
run stops by itself. -/
theorem status_of_run_eq_ok {limit : Option Int} {status : Status} {next : Session}
    (ran : run limit session = .ok status next) :
    next.machine.isSome = true ∧ next.status = some status ∧ status ≠ .stopped := by
  have synced {paused : Session} {machine : Machine} (started : paused.machine = some machine) :
      (leftBy (syncView paused)).machine.isSome = true := by
    obtain ⟨last, lastStarted, _⟩ := exists_machine_leftBy_syncView started
    rw [lastStarted]
    rfl
  rcases bind_eq_ok_iff.mp ran with ⟨machine, ready, ensured, _⟩
  by_cases harmed : ready.status = some .error
  · rw [run_of_ensured limit ensured, if_pos harmed] at ran
    cases ran
    refine ⟨?_, harmed, by simp⟩
    rw [started_of_ensured ensured]
    rfl
  · have ended := runEnd ensured harmed limit
    rw [ran] at ended
    cases ended with
    | @settled _ _ lastMachine within steps started idle =>
        refine ⟨synced started, keepsStatus_syncView _, ?_⟩
        rcases restingStatus_cases lastMachine with halted | waiting
        · simp [halted]
        · simp [waiting]
    | frozen within steps live stepped started harmed =>
        exact ⟨synced started, (keepsStatus_syncView _).trans harmed, by simp⟩
    | @timedOut last _ steps started live =>
        exact ⟨synced started, keepsStatus_syncView _, by simp⟩

/-! ## Spending a budget in two runs -/

/-- A remark on anything but a timeout. -/
def untimed (remark : Remark) : Bool :=
  remark.event != "timeout"

/-- Twins but for views and remarks on timeouts. -/
abbrev UntimedTwin : Session → Session → Prop :=
  Twin Program.Alike untimed

/-- Bringing the view up to date on one side does not part twins. -/
theorem UntimedTwin.sync (twin : session.UntimedTwin other) :
    (leftBy (syncView session)).UntimedTwin other := by
  rcases twin.machine_cases with
    ⟨unstarted, otherUnstarted⟩ | ⟨machine, otherMachine, started, otherStarted, machines⟩
  · rw [syncView_of_unstarted unstarted]
    exact twin
  · obtain ⟨program, monitor, shown, sync_eq⟩ := syncView_of_started started
    have kept := keepsObservers_syncView session
    rw [sync_eq] at kept ⊢
    have programs : program.Alike otherMachine.program := by
      constructor
      · rw [shown.grid, machines.program.grid]
      · rw [shown.entry, machines.program.entry]
    have observers : monitor.observers = session.monitor.observers := kept
    exact { twin with
      machine := by
        rw [otherStarted]
        exact .some { machines with program := programs }
      observers := by
        rw [leftBy, observers]
        exact twin.observers }

theorem run_of_started (started : session.machine = some machine)
    (calm : session.status ≠ some .error) (budget : Nat) :
    run (some budget) session =
      (do runSteps budget budget; rest : Action Status) { session with status := none } := by
  rw [run_of_ensured (some (budget : Int)) (ensureMachine_of_started started), if_neg calm]
  simp only [Option.getD_some, Int.toNat_natCast]

/-- A run that follows a fault changes nothing. -/
theorem run_of_frozen (started : session.machine = some machine)
    (harmed : session.status = some .error) (limit : Option Int) :
    run limit session = .ok .error session := by
  rw [run_of_ensured limit (ensureMachine_of_started started), if_pos harmed]

/-- Twins make up to so many more steps and come to rest alike, whatever their budgets
are called. -/
theorem UntimedTwin.sameOutcome_finish (twin : session.UntimedTwin other)
    (total otherTotal budget : Nat) :
    SameOutcome Eq UntimedTwin ((do runSteps total budget; rest : Action Status) session)
      ((do runSteps otherTotal budget; rest : Action Status) other) := by
  apply (twin.sameOutcome_runSteps .ofAlike budget (.inr fun _ => rfl)).bind
  rintro _ _ stepped otherStepped rfl steppedTwin _
  exact steppedTwin.sameOutcome_rest .ofAlike

theorem UntimedTwin.remarked_timeout (twin : session.UntimedTwin other) (message : String) :
    (remarked session .warning "timeout" message).UntimedTwin other where
  source := twin.source
  options := twin.options
  machine := twin.machine
  observers := twin.observers
  status := twin.status
  error := twin.error
  clicks := twin.clicks
  remarks := by
    rw [← twin.remarks]
    simp [remarked, untimed]

/-- A run goes on from where the one before was cut off. -/
theorem UntimedTwin.sameOutcome_resume {paused last : Session} (twin : paused.UntimedTwin last)
    (started : paused.machine = some machine) (calm : paused.status ≠ some .error)
    (total budget : Nat) :
    SameOutcome Eq UntimedTwin (run (some budget) (leftBy (syncView paused)))
      ((do runSteps total budget; rest : Action Status) { last with status := none }) := by
  obtain ⟨synced, syncedStarted, _⟩ := exists_machine_leftBy_syncView started
  have syncedCalm : (leftBy (syncView paused)).status ≠ some .error := by
    rwa [keepsStatus_syncView paused]
  rw [run_of_started syncedStarted syncedCalm]
  exact UntimedTwin.sameOutcome_finish (twin.sync.withStatus none) budget total budget

/-- A budget may be spent in two runs instead of one. -/
theorem UntimedTwin.sameOutcome_resumed (twin : session.UntimedTwin session)
    (started : session.machine = some machine) (calm : session.status ≠ some .error)
    (first second : Nat) :
    SameOutcome Eq UntimedTwin
      ((do let _ ← run (some first); run (some second) : Action Status) session)
      (run (some (first + second : Nat)) session) := by
  have twinWhole := twin.sameOutcome_run .ofAlike (some ((first + second : Nat) : Int))
  have clearedTwin := twin.withStatus none
  have whole := run_of_started started calm (first + second)
  have firstEnd := runEnd (ensureMachine_of_started started) calm (some (first : Int))
  rw [Option.getD_some, Int.toNat_natCast] at firstEnd
  generalize firstRun : run (some (first : Int)) session = result at firstEnd
  cases firstEnd with
  | failed within steps live stepFailed =>
      rw [bind_of_error (steps.runSteps_of_failed live stepFailed (by omega) _)] at whole
      rw [bind_of_error firstRun]
      rwa [whole] at twinWhole ⊢
  | @frozen _ _ last _ within steps live stepped lastStarted harmed =>
      obtain ⟨synced, syncedStarted, _⟩ := exists_machine_leftBy_syncView lastStarted
      have secondRun := run_of_frozen syncedStarted ((keepsStatus_syncView last).trans harmed)
        (some second)
      rw [bind_of_ok (steps.runSteps_of_halted live stepped (by omega) _),
        rest_of_frozen lastStarted harmed] at whole
      rw [bind_of_ok firstRun, secondRun]
      rwa [whole] at twinWhole ⊢
  | @settled count last lastMachine within steps lastStarted idle =>
      have lastTwin := steps.twin_self .ofAlike clearedTwin
      have lastIdle : last.hasThreads = false := by simpa [hasThreads, lastStarted] using idle
      have idleToo : ({ last with status := none } : Session).hasThreads = false := lastIdle
      have startedToo : ({ last with status := none } : Session).machine = some lastMachine :=
        lastStarted
      have unsettled := (steps.status_eq rfl lastStarted).imp_right And.right
      -- The second run finds nothing live, and neither does the rest of the whole one.
      have finished : (do runSteps (first + second) second; rest : Action Status)
          { last with status := none } = run (some (first + second : Nat)) session := by
        rw [whole, bind_of_ok (steps.runSteps_of_idle lastIdle (by omega) _),
          bind_of_ok (runSteps_of_idle idleToo _ _), rest_of_unsettled lastStarted unsettled]
        exact rest_of_unsettled startedToo (.inl rfl)
      rw [bind_of_ok firstRun, ← finished]
      exact UntimedTwin.sameOutcome_resume (lastTwin.withStatus (some (restingStatus lastMachine)))
        lastStarted (calm_restingStatus lastMachine) _ _
  | @timedOut last lastMachine steps lastStarted live =>
      have timed := UntimedTwin.remarked_timeout
        ((steps.twin_self .ofAlike clearedTwin).withStatus (some .timeout))
        ("stopped after " ++ toString first ++ " steps")
      have unsettled : last.status = none :=
        (steps.status_eq rfl lastStarted).resolve_right fun idle => by simp [live] at idle
      have finished : (do runSteps (first + second) second; rest : Action Status)
          { last with status := none } = run (some (first + second : Nat)) session := by
        have cleared : { last with status := none } = last := by rw [← unsettled]
        rw [whole, cleared]
        change EStateM.bind _ _ _ = EStateM.bind _ _ _
        rw [EStateM.bind, EStateM.bind, steps.runSteps_eq]
      rw [bind_of_ok firstRun, ← finished]
      exact timed.sameOutcome_resume lastStarted (by simp [remarked]) _ _

/-! ## Counting the steps of a run -/

/-- A step that fails is not counted. -/
theorem stepCount_of_step_eq_error {left : Session} {failure : Failure}
    (started : session.machine = some machine) (failed : step session = .error failure left) :
    ∃ leftMachine, left.machine = some leftMachine ∧
      leftMachine.stepCount = machine.stepCount := by
  have outcome := stepOutcome (ensureMachine_of_started started)
  rw [failed] at outcome
  cases outcome with
  | @failed next monitor _ _ _ machineFailed _ =>
      obtain ⟨_, _, _, _, next_eq, _⟩ := Machine.step_eq_error machineFailed
      exact ⟨next, rfl, by rw [next_eq]⟩

/-- What a run with a budget comes to on a machine. -/
structure Spends (machine : Machine) (budget : Nat) (result : EStateM.Result Failure Session Status)
    (last : Machine) : Prop where
  started : (leftBy result).machine = some last
  grows : machine.stepCount ≤ last.stepCount
  within : last.stepCount ≤ machine.stepCount + budget
  /-- It times out when it has spent its budget without a fault and leaves a live
  thread. -/
  timeout_iff : ∀ status ended, result = .ok status ended →
    (status = .timeout ↔ last.stepCount = machine.stepCount + budget ∧
      ended.status ≠ some .error ∧ last.isRunning = true)

/-- Bringing the view up to date at the end of a run counts for nothing. -/
theorem exists_spends_of_synced {paused : Session} {lastMachine : Machine} {status : Status}
    {budget : Nat} (started : paused.machine = some lastMachine)
    (grows : machine.stepCount ≤ lastMachine.stepCount)
    (within : lastMachine.stepCount ≤ machine.stepCount + budget)
    (timeout_iff : status = .timeout ↔ lastMachine.stepCount = machine.stepCount + budget ∧
      paused.status ≠ some .error ∧ lastMachine.isRunning = true) :
    ∃ last, Spends machine budget (.ok status (leftBy (syncView paused))) last := by
  obtain ⟨synced, syncedStarted, alike⟩ := exists_machine_leftBy_syncView started
  rw [← alike.stepCount] at grows within timeout_iff
  refine ⟨synced, syncedStarted, grows, within, ?_⟩
  rintro _ _ ⟨⟩
  rwa [alike.isRunning, keepsStatus_syncView paused]

theorem exists_spends_run (started : session.machine = some machine)
    (calm : session.status ≠ some .error) (stands : machine.CursorStands) (budget : Nat) :
    ∃ last, Spends machine budget (run (some budget) session) last := by
  have ended := runEnd (ensureMachine_of_started started) calm (some (budget : Int))
  rw [Option.getD_some, Int.toNat_natCast] at ended
  generalize run (some (budget : Int)) session = result at ended ⊢
  cases ended with
  | failed within steps live stepFailed =>
      obtain ⟨beforeMachine, beforeStarted, _, count_eq⟩ := steps.stepCount_eq started stands
      obtain ⟨leftMachine, leftStarted, left_eq⟩ :=
        stepCount_of_step_eq_error beforeStarted stepFailed
      refine ⟨leftMachine, leftStarted, by omega, by omega, ?_⟩
      intro status ended returned
      cases returned
  | frozen within steps live stepped lastStarted harmed =>
      obtain ⟨beforeMachine, beforeStarted, _, count_eq⟩ := steps.stepCount_eq started stands
      obtain ⟨_, lastMachine, lastStarted, last_eq⟩ :=
        frozen_of_step_eq_false beforeStarted (steps.calm (by simp)) live stepped
      apply exists_spends_of_synced lastStarted (by omega) (by omega)
      constructor
      · simp
      · rintro ⟨_, unharmed, _⟩
        exact absurd harmed unharmed
  | @settled count last lastMachine within steps lastStarted idle =>
      obtain ⟨_, countedStarted, _, count_eq⟩ := steps.stepCount_eq started stands
      cases lastStarted.symm.trans countedStarted
      refine exists_spends_of_synced lastStarted (by omega) (by omega) ⟨?_, ?_⟩
      · intro timed
        rcases restingStatus_cases lastMachine with halted | waiting
        · cases halted.symm.trans timed
        · cases waiting.symm.trans timed
      · rintro ⟨_, _, running⟩
        rw [idle] at running
        cases running
  | @timedOut last lastMachine steps lastStarted live =>
      obtain ⟨_, countedStarted, _, count_eq⟩ := steps.stepCount_eq started stands
      cases lastStarted.symm.trans countedStarted
      have timedStarted : (remarked { last with status := some .timeout } .warning "timeout"
          ("stopped after " ++ toString budget ++ " steps")).machine = some lastMachine :=
        lastStarted
      exact exists_spends_of_synced timedStarted (by omega) (by omega)
        ⟨fun _ => ⟨count_eq, by simp [remarked], live⟩, fun _ => rfl⟩

/-! ## Budgets compose -/

/-- Two sessions that have come to the same end, except that one may have timed out
on its way. -/
structure EndsAlike (session other : Session) : Prop where
  machine : Option.Rel Machine.Alike session.machine other.machine
  status : session.status = other.status
  error : session.error = other.error
  recorder : session.recorder = other.recorder
  receipt : session.receipt = { other.receipt with remarks := session.remarks }
  remarks : session.remarks.filter untimed = other.remarks.filter untimed

theorem UntimedTwin.endsAlike (twin : session.UntimedTwin other)
    (setup : session.setup = other.setup) : session.EndsAlike other where
  machine := by
    rcases twin.machine_cases with
      ⟨unstarted, otherUnstarted⟩ | ⟨machine, otherMachine, started, otherStarted, machines⟩
    · rw [unstarted, otherUnstarted]
      exact .none
    · rw [started, otherStarted]
      exact .some (machines.alike .ofAlike)
  status := twin.status
  error := twin.error
  recorder := twin.recorder
  receipt := by
    have path : session.path = other.path := congrArg Setup.path setup
    have stamp : session.stamp = other.stamp := congrArg Setup.stamp setup
    rw [twin.receipt .ofAlike, path, stamp, ← path_receipt, ← stamp_receipt]
  remarks := twin.remarks

/-- Twins whose views show their grids have the same view. -/
theorem UntimedTwin.view_eq (twin : session.UntimedTwin other) (shown : session.Shown)
    (otherShown : other.Shown) : session.view = other.view := by
  rcases twin.machine_cases with
    ⟨unstarted, otherUnstarted⟩ | ⟨machine, otherMachine, started, otherStarted, machines⟩
  · rw [view, view, program?, program?, unstarted, otherUnstarted]
    exact congrArg Buffer.load twin.source
  · rw [Shown, currentProgram, started, Option.getD_some] at shown
    rw [Shown, currentProgram, otherStarted, Option.getD_some] at otherShown
    have cells : machine.program.view.cells = otherMachine.program.view.cells := by
      rw [shown, otherShown, machines.program.grid]
    rw [view, view, program?, program?, started, otherStarted]
    exact congrArg Buffer.mk cells

theorem untimedTwin_create (text : Text) (options : Options) (path : Option String)
    (stamp : Stamp) (observers : List Observer) (threshold : Int) :
    (create text options path stamp observers threshold).UntimedTwin
      (create text options path stamp observers threshold) where
  source := rfl
  options := rfl
  machine := .none
  observers := .intro _ rfl
  status := rfl
  error := rfl
  clicks := rfl
  remarks := rfl

/-- Budgets of steps compose. In whatever state calls have left a started session that
is not frozen, two runs have the outcome of one run whose budget is the sum of theirs,
failures included, and end alike; when they return, the views are the same as well. A
run makes no more steps than its budget allows, and it times out if and only if it has
made all of them without a fault and some thread is still live. -/
theorem step_budgets_compose (text : Text) (options : Options) (path : Option String)
    (stamp : Stamp) (observers : List Observer) (threshold : Int) (calls : List Call)
    (machine : Machine)
    (started : ((create text options path stamp observers threshold).afterAll calls).machine =
      some machine)
    (calm : ((create text options path stamp observers threshold).afterAll calls).status ≠
      some .error) :
    let session := (create text options path stamp observers threshold).afterAll calls
    (∀ first second : Nat,
      SameOutcome Eq EndsAlike
        ((do let _ ← run (some first); run (some second) : Action Status) session)
        (run (some (first + second : Nat)) session)) ∧
    (∀ (first second : Nat) (status otherStatus : Status) (parted whole : Session),
      (do let _ ← run (some first); run (some second) : Action Status) session =
          .ok status parted →
        run (some (first + second : Nat)) session = .ok otherStatus whole →
        parted.view = whole.view) ∧
    ∀ budget : Nat, ∃ last, Spends machine budget (run (some budget) session) last := by
  intro session
  have twin : session.UntimedTwin session :=
    (untimedTwin_create text options path stamp observers threshold).afterAll .ofAlike calls
  have faithful : session.Faithful := (faithful_of_fresh rfl).afterAll calls
  have stands : session.currentMachine.CursorStands :=
    holds_afterAll Machine.Act.cursorStands (.inr ⟨rfl, rfl⟩) (.inr ⟨rfl, rfl⟩) calls
  rw [currentMachine, started, Option.getD_some] at stands
  have resumed (first second : Nat) :=
    UntimedTwin.sameOutcome_resumed twin started calm first second
  refine ⟨?_, ?_, exists_spends_run started calm stands⟩
  · intro first second
    apply (resumed first second).withLeft
    apply UntimedTwin.endsAlike (resumed first second).leftBy
    have kept := (Keeps.bind (keepsSetup_run (some (first : Int))) fun _ =>
      keepsSetup_run (some (second : Int))) session
    exact kept.trans (keepsSetup_run _ session).symm
  · intro first second status otherStatus parted whole partedRun wholeRun
    have left := (resumed first second).leftBy
    rw [partedRun, wholeRun] at left
    apply UntimedTwin.view_eq left
    · rcases bind_eq_ok_iff.mp partedRun with ⟨_, middle, firstRun, secondRun⟩
      exact shown_of_run_eq_ok ((KeepsFaithful.run _).of_ok faithful firstRun) secondRun
    · exact shown_of_run_eq_ok faithful wholeRun

/-- Three words, of which the first run makes one step: the second run halts like a
single one, which has not timed out on its way. -/
theorem step_budgets_compose_resumed :
    let session := (create "-- volute\nx x h".toList ⟨false, 5, true⟩ none ⟨"now", "one"⟩ []
      30).afterAll [.start]
    ∃ parted whole,
      (do let _ ← run (some 1); run (some 2) : Action Status) session = .ok .halted parted ∧
        run (some 3) session = .ok .halted whole ∧ parted.EndsAlike whole ∧
        parted.view = whole.view ∧ parted.remarks ≠ whole.remarks := by
  intro session
  have started : session.machine = some session.currentMachine := by decide +kernel
  obtain ⟨compose, views, _⟩ := step_budgets_compose "-- volute\nx x h".toList ⟨false, 5, true⟩ none
    ⟨"now", "one"⟩ [] 30 [.start] session.currentMachine started (by decide +kernel)
  have partedRun : (do let _ ← run (some 1); run (some 2) : Action Status) session = .ok .halted
      (leftBy ((do let _ ← run (some 1); run (some 2) : Action Status) session)) := by
    decide +kernel
  have wholeRun : run (some 3) session = .ok .halted (leftBy (run (some 3) session)) := by
    decide +kernel
  exact ⟨_, _, partedRun, wholeRun, (compose 1 2).leftBy, views 1 2 _ _ _ _ partedRun wholeRun,
    by decide +kernel⟩

end Palimpsest.Session

import Palimpsest.Proofs.Machine.History
import Palimpsest.Proofs.Session.Escapes

/-!
# The table and the trace of a session

The recorder of a session follows its machine: after every call its table shows the
live threads, and its trace is the history of the machine since the last start. Only a
step that fails is not told of, and leaves a thread whose memory is not what the table
shows. What is counted in the trace can also be read off the receipt, since the threads
that have been started are the main thread and those of the clicks.
-/

namespace Palimpsest.Session

/-- The number of threads started since the last start: the main thread, if there is an
entry point, and the threads of all clicks. -/
def threadsStarted (session : Session) : Nat :=
  (if session.freshMachine.program.entry.isSome then 1 else 0) +
    (session.clicks.map fun click => click.threads.length).sum

/-- The recorder of the session has followed its machine, and so many more threads have
been started than are accounted for. -/
structure Recorded (full : Prop) (owed : Nat) (session : Session) : Prop where
  followed : session.currentMachine.Followed full session.freshMachine.program
    session.options.keepsTrace session.monitor.observers
  counted : ∀ machine, session.machine = some machine →
    machine.nextKey = session.threadsStarted + owed

/-- The machine of the session does not fail in its next step. -/
def StepsOn (session : Session) : Prop :=
  ∀ machine, session.machine = some machine →
    ∃ state, Machine.step (machine, session.monitor) = .ok () state

/-- No step fails that is attempted in these calls. -/
def Unfailing (session : Session) : List Call → Prop
  | [] => True
  | call :: rest =>
    (∀ before, Attempts session call before → before.StepsOn) ∧
      (session.after call).Unfailing rest

theorem stepsOn_of_started {session : Session} {machine : Machine} {state : Machine × Monitor}
    (started : session.machine = some machine)
    (stepped : Machine.step (machine, session.monitor) = .ok () state) : session.StepsOn := by
  intro other other_eq
  rw [Option.some.inj (other_eq.symm.trans started)]
  exact ⟨state, stepped⟩

/-- A started session attempts its step as it is. -/
theorem Attempts.eq_of_started {session before : Session} {machine : Machine}
    (attempts : Attempts session .step before) (started : session.machine = some machine) :
    before = session := by
  cases attempts with
  | step ensured calm live =>
      rw [ensureMachine_of_started started] at ensured
      cases ensured
      rfl

namespace Recorded

variable {full : Prop} {owed : Nat} {session ready : Session} {machine : Machine}

theorem create (full : Prop) (text : Text) (options : Options) (path : Option String)
    (stamp : Stamp) (observers : List Observer) (threshold : Int) :
    (create text options path stamp observers threshold).Recorded full 0 where
  followed := .fresh full _ options.keepsTrace observers
  counted := nofun

theorem machine_followed (recorded : session.Recorded full owed)
    (started : session.machine = some machine) :
    machine.Followed full session.freshMachine.program session.options.keepsTrace
      session.monitor.observers := by
  have followed := recorded.followed
  rwa [currentMachine, started] at followed

theorem sync (recorded : session.Recorded full owed) :
    (leftBy (syncView session)).Recorded full owed := by
  unfold syncView
  split
  · exact recorded
  · rename_i machine started
    split
    · exact recorded
    · constructor
      · exact (recorded.machine_followed started).redraw
      · rintro _ ⟨⟩
        exact recorded.counted machine started

/-! ## What the machine does -/

section Acting

variable {next : Machine} {monitor : Monitor}

theorem of_startThread_eq_ok (recorded : session.Recorded full owed)
    (started : session.machine = some machine) {name : String} {location : Location}
    {memory : List Text}
    (joined : Machine.startThread name location memory (machine, session.monitor) =
      .ok () (next, monitor)) :
    Recorded full (owed + 1) { session with machine := some next, monitor := monitor } where
  followed := (recorded.machine_followed started).of_startThread_eq_ok joined
  counted := by
    rintro _ ⟨⟩
    rw [(Machine.startThread_eq_ok joined).1]
    exact congrArg (· + 1) (recorded.counted machine started)

theorem of_step_eq_ok (recorded : session.Recorded full owed)
    (started : session.machine = some machine)
    (stepped : Machine.step (machine, session.monitor) = .ok () (next, monitor)) :
    Recorded full owed { session with machine := some next, monitor := monitor } where
  followed := (recorded.machine_followed started).of_step_eq_ok stepped
  counted := by
    rintro _ ⟨⟩
    have counted := recorded.counted machine started
    rcases Machine.step_eq_ok stepped with ⟨_, rfl⟩ | ⟨thread, scene, _, _, rfl⟩
    · exact counted
    · exact counted

/-- What a failing step leaves is followed as well, but for the memory of its thread. -/
theorem of_step_eq_error (recorded : session.Recorded full owed)
    (started : session.machine = some machine) (unseen : ¬full) {failure : Failure}
    (moderate : machine.program.grid.Moderate) (moderateAfter : next.program.grid.Moderate)
    (failed : Machine.step (machine, session.monitor) = .error failure (next, monitor)) :
    Recorded full owed { session with machine := some next, monitor := monitor } where
  followed :=
    (recorded.machine_followed started).of_step_eq_error unseen moderate moderateAfter failed
  counted := by
    rintro _ ⟨⟩
    obtain ⟨_, _, _, count⟩ := Machine.kept_of_step_eq_error failed
    exact count.trans (recorded.counted machine started)

end Acting

/-! ## Starts -/

theorem start (full : Prop) {session : Session}
    (moderate : session.freshMachine.program.grid.Moderate) :
    (leftBy (start session)).Recorded full 0 := by
  obtain ⟨entry, remarks, opened_eq⟩ := session.opened_eq
  have followed : session.freshMachine.Followed full session.freshMachine.program
      session.options.keepsTrace session.opened.monitor.observers := by
    rw [opened_eq]
    exact .fresh full _ _ _
  cases entered : session.freshMachine.program.entry with
  | none =>
      rw [start_of_no_entry entered, restarted, opened_eq]
      rw [opened_eq] at followed
      constructor
      · exact followed
      · rintro _ ⟨⟩
        change 0 = (if session.freshMachine.program.entry.isSome then 1 else 0) + 0 + 0
        rw [entered]
        rfl
  | some place =>
      have ink : session.freshMachine.program.grid.HasInk place :=
        Grid.hasInk_of_entry_eq_some entered
      obtain ⟨told, joined⟩ := Machine.startThread_of_fits (moderate.fits_of_isValid ink.isValid)
        session.freshMachine session.opened.monitor Machine.mainName []
      have followedThen := followed.of_startThread_eq_ok joined
      rw [start_of_entry entered joined, opened_eq]
      constructor
      · exact followedThen
      · rintro _ ⟨⟩
        change 1 = (if session.freshMachine.program.entry.isSome then 1 else 0) + 0 + 0
        rw [entered]
        rfl

theorem ensured (recorded : session.Recorded full 0) (moderate : session.grid.Moderate)
    (ensured : ensureMachine session = .ok machine ready) : ready.Recorded full 0 := by
  cases started : session.machine with
  | some running =>
      rw [ensureMachine_of_started started] at ensured
      cases ensured
      exact recorded
  | none =>
      rw [ensureMachine_of_unstarted started] at ensured
      obtain ⟨_, left, start_eq, returned⟩ := bind_eq_ok_iff.mp ensured
      cases returned
      rw [grid, currentProgram, started] at moderate
      have recordedThen := start full moderate
      rwa [start_eq] at recordedThen

/-! ## Steps and runs -/

/-- A step is told of, unless it fails. -/
theorem step (recorded : session.Recorded full 0) (moderate : session.grid.Moderate)
    (moderateAfter : (leftBy (step session)).grid.Moderate)
    (unfailing : full → ∀ before, Attempts session .step before → before.StepsOn) :
    (leftBy (Session.step session)).Recorded full 0 := by
  obtain ⟨machine, ready, ensured, started, _⟩ := exists_ensured moderate
  have recorded := recorded.ensured moderate ensured
  have machineModerate : machine.program.grid.Moderate := by
    rw [(grid_of_ensured ensured).2]
    exact moderate
  have unseen : ∀ {failure : Failure} {state : Machine × Monitor},
      ready.status ≠ some .error → machine.isRunning = true →
      Machine.step (machine, ready.monitor) = .error failure state → ¬full := by
    intro failure state calm live failed seen
    have attempts : Attempts session .step ready :=
      .step ensured calm (hasThreads_iff.mpr ⟨machine, started, live⟩)
    obtain ⟨_, stepped⟩ := unfailing seen ready attempts machine started
    cases failed.symm.trans stepped
  have outcome := stepOutcome ensured
  generalize Session.step session = result at outcome moderateAfter ⊢
  cases outcome with
  | frozen harmed => exact recorded
  | settled calm idle => exact ⟨recorded.followed, recorded.counted⟩
  | executed calm live stepped =>
      have left := recorded.of_step_eq_ok started stepped
      exact ⟨left.followed, left.counted⟩
  | faulted calm live failed =>
      have nextModerate := moderateAfter
      rw [leftBy, keepsGrid_syncView] at nextModerate
      have left := recorded.of_step_eq_error started (unseen calm live failed) machineModerate
        nextModerate failed
      apply sync
      exact ⟨left.followed, left.counted⟩
  | failed calm live failed faultless =>
      exact recorded.of_step_eq_error started (unseen calm live failed) machineModerate
        moderateAfter failed

theorem runSteps (recorded : session.Recorded full 0) {total budget : Nat}
    (moderate : ∀ count, count ≤ budget →
      (leftBy (runSteps total count session)).grid.Moderate)
    (unfailing : full → ∀ count before, count < budget → Steps count session before →
      before.hasThreads = true → before.StepsOn) :
    (leftBy (runSteps total budget session)).Recorded full 0 := by
  induction budget generalizing session with
  | zero =>
      cases live : session.hasThreads with
      | false =>
          rw [runSteps_of_idle live]
          exact recorded
      | true =>
          rw [runSteps_zero_of_live live]
          exact ⟨recorded.followed, recorded.counted⟩
  | succ budget inductionHypothesis =>
      cases live : session.hasThreads with
      | false =>
          rw [runSteps_of_idle live]
          exact recorded
      | true =>
          obtain ⟨moderateBefore, moderateAfter, moderateNext⟩ :=
            moderate_of_runSteps_succ live moderate
          obtain ⟨machine, started, _⟩ := hasThreads_iff.mp live
          have stepsOn : full → ∀ before, Attempts session .step before → before.StepsOn := by
            intro seen before attempts
            rw [attempts.eq_of_started started]
            exact unfailing seen 0 session (Nat.succ_pos budget) (.refl session) live
          rw [runSteps_succ live]
          apply holds_leftBy_bind (recorded.step moderateBefore moderateAfter stepsOn)
          intro executed next stepped recordedThen
          cases executed with
          | false => exact recordedThen
          | true =>
              rw [if_pos rfl]
              apply inductionHypothesis recordedThen (moderateNext next stepped)
              intro seen count before within steps liveThen
              exact unfailing seen (count + 1) before (Nat.succ_lt_succ within)
                (.head live stepped steps) liveThen

theorem run (recorded : session.Recorded full 0) {limit : Option Int}
    (moderate : session.grid.Moderate) (passes : session.PassesModerate (.run limit))
    (unfailing : full → ∀ before, Attempts session (.run limit) before → before.StepsOn) :
    (leftBy (run limit session)).Recorded full 0 := by
  obtain ⟨machine, ready, ensured, started, _⟩ := exists_ensured moderate
  have recorded := recorded.ensured moderate ensured
  rw [run_of_ensured limit ensured]
  by_cases harmed : ready.status = some .error
  · rw [if_pos harmed]
    exact recorded
  · rw [if_neg harmed]
    have moderateRun := passes.moderate_leftBy_runSteps ensured harmed
      (limit.getD ready.options.maxSteps).toNat
    have cleared : ({ ready with status := none } : Session).Recorded full 0 :=
      ⟨recorded.followed, recorded.counted⟩
    have calm : ({ ready with status := none } : Session).status ≠ some .error := nofun
    have moves := moves_leftBy_runSteps calm moderateRun
    have ran := cleared.runSteps moderateRun fun seen count before within steps live =>
      unfailing seen before (.run ensured harmed within steps live)
    apply holds_leftBy_bind ran
    intro _ finished stepped recordedThen
    rw [stepped] at moves
    obtain ⟨last, last_eq⟩ : ∃ last, finished.machine = some last :=
      Moves.exists_machine moves started
    rw [leftBy_rest_of_started last_eq]
    apply sync
    exact ⟨recordedThen.followed, recordedThen.counted⟩

/-! ## Stops and clicks -/

theorem stop (recorded : session.Recorded full 0) :
    (leftBy (stop session)).Recorded full 0 := by
  rw [Session.stop, get_bind_apply]
  split
  · exact recorded
  · apply sync
    exact ⟨recorded.followed, recorded.counted⟩

/-- Threads that are started before their click is noted are not accounted for. -/
theorem startAll (recorded : session.Recorded full owed) (started : session.machine = some machine)
    (name : String) (memory : List Text) {handlers : List Location}
    (fits : ∀ handler ∈ handlers, handler.fits = true) :
    ∃ next monitor, startAll name memory handlers session =
        .ok () { session with machine := some next, monitor := monitor } ∧
      Recorded full (owed + handlers.length)
        { session with machine := some next, monitor := monitor } := by
  induction handlers generalizing session machine owed with
  | nil =>
      refine ⟨machine, session.monitor, ?_, ?_⟩
      · rw [← started]
        rfl
      · rw [← started]
        exact recorded
  | cons handler rest inductionHypothesis =>
      obtain ⟨told, joined⟩ := Machine.startThread_of_fits (fits handler List.mem_cons_self)
        machine session.monitor name memory
      have recordedThen := recorded.of_startThread_eq_ok started joined
      obtain ⟨next, monitor, allStarted, recordedLast⟩ := inductionHypothesis recordedThen rfl
        fun later member => fits later (List.mem_cons_of_mem handler member)
      refine ⟨next, monitor, ?_, ?_⟩
      · rw [Session.startAll, bind_of_ok (ensureMachine_of_started started),
          bind_of_ok (onMachine_of_ok joined)]
        exact allStarted
      · rw [List.length_cons, Nat.add_comm rest.length 1, ← Nat.add_assoc]
        exact recordedLast

/-- A click that is noted accounts for its threads. -/
theorem noteClick (click : ClickRecord) (recorded : session.Recorded full click.threads.length) :
    Recorded full 0 { session with clicks := session.clicks ++ [click] } where
  followed := recorded.followed
  counted := by
    intro machine started
    rw [recorded.counted machine started]
    simp only [threadsStarted, List.map_append, List.sum_append, List.map_cons, List.map_nil,
      List.sum_singleton, Nat.add_assoc, Nat.add_zero]
    rfl

theorem click (recorded : session.Recorded full 0) (moderate : session.grid.Moderate)
    (location : Location) : (leftBy (click location session)).Recorded full 0 := by
  obtain ⟨machine, ready, ensured, started, _⟩ := exists_ensured moderate
  have recorded := recorded.ensured moderate ensured
  rw [Session.click, leftBy_bind_of_ok ensured, get_bind_apply]
  by_cases harmed : ready.status = some .error
  · rw [if_pos harmed]
    exact recorded
  · rw [if_neg harmed, Location.encode]
    cases fits : location.fits with
    | false => exact recorded
    | true =>
        have handlersFit : ∀ handler ∈ machine.program.clickHandlers, handler.fits = true := by
          intro handler member
          have ink := Grid.hasInk_of_mem_clickHandlersFrom member
          rw [(grid_of_ensured ensured).2] at ink
          exact moderate.fits_of_isValid ink.isValid
        obtain ⟨next, monitor, allStarted, recordedThen⟩ := recorded.startAll started
          ("mouse:" ++ String.ofList location.text) [location.text] handlersFit
        have noted := noteClick ⟨location, machine.program.clickHandlers.map fun _ =>
          "mouse:" ++ String.ofList location.text⟩ (by simpa using recordedThen)
        rw [if_pos rfl]
        dsimp only
        rw [leftBy_bind_of_ok allStarted]
        generalize machine.program.clickHandlers = handlers at noted ⊢
        cases handlers with
        | nil => exact ⟨noted.followed, noted.counted⟩
        | cons handler rest => exact ⟨noted.followed, noted.counted⟩

/-! ## Calls -/

theorem after (recorded : session.Recorded full 0) {call : Call}
    (moderate : session.grid.Moderate) (passes : session.PassesModerate call)
    (unfailing : full → ∀ before, Attempts session call before → before.StepsOn) :
    (session.after call).Recorded full 0 := by
  rw [after_eq_leftBy, perform.eq_def]
  cases call with
  | start =>
      rw [leftBy_bind_pure]
      exact start full passes.moderate_source
  | step =>
      rw [leftBy_bind_pure]
      exact recorded.step moderate passes.moderate_leftBy_step unfailing
  | run limit =>
      rw [leftBy_bind_pure]
      exact recorded.run moderate passes unfailing
  | stop =>
      rw [leftBy_bind_pure]
      exact recorded.stop
  | click location =>
      rw [leftBy_bind_pure]
      exact recorded.click moderate location

theorem afterAll (recorded : session.Recorded full 0) {calls : List Call}
    (stays : session.StaysModerate calls) (unfailing : full → session.Unfailing calls) :
    (session.afterAll calls).Recorded full 0 := by
  induction calls generalizing session with
  | nil => exact recorded
  | cons call rest inductionHypothesis =>
      rcases stays with ⟨moderate, passes, stays⟩
      have recordedThen := recorded.after moderate passes fun seen => (unfailing seen).1
      exact inductionHypothesis recordedThen stays fun seen => (unfailing seen).2

end Recorded

/-! ## What the recorder shows -/

theorem recorder_of_front {session : Session} {recorder : Recorder} {others : List Observer}
    (front : session.monitor.observers = .recorder recorder :: others) :
    session.recorder = recorder := by
  simp [Session.recorder, Monitor.recorder, front]

/-- It is the recorder of the session that has followed the machine. -/
theorem Recorded.recordedBy {full : Prop} {owed : Nat} {session : Session}
    (recorded : session.Recorded full owed) :
    session.recorder.keepsTrace = session.options.keepsTrace ∧
      session.currentMachine.RecordedBy full session.freshMachine.program session.recorder := by
  obtain ⟨recorder, others, front, keeps, recordedBy⟩ := recorded.followed
  rw [recorder_of_front front]
  exact ⟨keeps, recordedBy⟩

/-- The first observers are recorders that show the same. -/
def SameTable (observers others : List Observer) : Prop :=
  ∃ recorder rest other otherRest, observers = .recorder recorder :: rest ∧
    others = .recorder other :: otherRest ∧ recorder.table = other.table

theorem hearing_sameTable : Hearing SameTable where
  told := by
    rintro _ _ notice ⟨recorder, rest, other, otherRest, rfl, rfl, same⟩
    refine ⟨_, _, _, _, rfl, rfl, ?_⟩
    cases notice with
    | state key seen => simp only [Recorder.noted, Recorder.tableAfter, same]
    | ended key name => simp only [Recorder.noted, Recorder.tableAfter, same]
  restarted := by
    intro _ _ keepsTrace otherKeepsTrace _
    exact ⟨_, _, _, _, rfl, rfl, rfl⟩

/-- Whether a trace is kept makes no difference for the table. -/
theorem table_afterAll (text : Text) (options : Options) (path : Option String) (stamp : Stamp)
    (observers : List Observer) (threshold : Int) {calls : List Call}
    (stays : (create text options path stamp observers threshold).StaysModerate calls)
    (keepsTrace : Bool) :
    ((create text { options with keepsTrace := keepsTrace } path stamp observers
        threshold).afterAll calls).recorder.table =
      ((create text options path stamp observers threshold).afterAll calls).recorder.table := by
  have alike : (create text options path stamp observers threshold).AlikeHeard SameTable
      (create text { options with keepsTrace := keepsTrace } path stamp observers threshold) :=
    ⟨⟨rfl, rfl, rfl, .none, rfl, rfl, rfl, rfl⟩, ⟨_, _, _, _, rfl, rfl, rfl⟩⟩
  obtain ⟨recorder, _, other, _, front, otherFront, same⟩ :=
    (alike.afterAll hearing_sameTable stays).observers
  rw [recorder_of_front front, recorder_of_front otherFront, same]

/-- As long as no step has failed since a start, the table shows all memories. -/
theorem recorded_afterAll_of_unfailing (text : Text) (options : Options) (path : Option String)
    (stamp : Stamp) (observers : List Observer) (threshold : Int) {earlier later : List Call}
    (stays : (create text options path stamp observers threshold).StaysModerate
      (earlier ++ later))
    (begins : earlier = [] ∨ earlier.getLast? = some .start)
    (unfailing : ((create text options path stamp observers threshold).afterAll earlier).Unfailing
      later) :
    ((create text options path stamp observers threshold).afterAll (earlier ++ later)).Recorded
      True 0 := by
  obtain ⟨staysBefore, staysAfter⟩ := stays.of_append
  rw [afterAll, List.foldl_append]
  refine Recorded.afterAll ?_ staysAfter fun _ => unfailing
  rcases begins with rfl | restarted
  · exact .create True text options path stamp observers threshold
  · obtain ⟨front, rfl⟩ := List.getLast?_eq_some_iff.mp restarted
    obtain ⟨_, moderate, passes, _⟩ := staysBefore.of_append
    rw [List.foldl_concat, after_eq_leftBy, perform, leftBy_bind_pure]
    exact .start True passes.moderate_source

theorem clicks_receipt (session : Session) : session.receipt.clicks = session.clicks := by
  unfold receipt
  cases session.machine with
  | none => rfl
  | some machine => rfl

/-- After any calls on any text, the table of a started session shows the live threads
in the order of the machine, with their keys, names and pointers; as long as no step has
failed since the last start, it shows their memories as well. If a trace is kept, it is
the history of the machine: it has one event for every step and for every thread that
has been started since the last start, as many ends as threads are not live any more,
and no event of a thread after its end. If none is kept, the trace is empty, and the
table is the same. All grids are taken to be moderate. -/
theorem table_and_trace_follow_machine (text : Text) (options : Options) (path : Option String)
    (stamp : Stamp) (observers : List Observer) (threshold : Int) (calls : List Call)
    (stays : (create text options path stamp observers threshold).StaysModerate calls) :
    let fresh := create text options path stamp observers threshold
    let session := fresh.afterAll calls
    let started := (if session.freshMachine.program.entry.isSome then 1 else 0) +
      (session.receipt.clicks.map fun click => click.threads.length).sum
    (∀ machine, session.machine = some machine →
      session.recorder.table.map Prod.fst = machine.threads.map Thread.key ∧
      session.recorder.states.map (fun state => (state.name, some state.location)) =
        machine.threads.map (fun thread => (thread.name, thread.pointer)) ∧
      (∀ earlier later, calls = earlier ++ later →
        earlier = [] ∨ earlier.getLast? = some .start →
        (fresh.afterAll earlier).Unfailing later →
        session.recorder.states.map ThreadState.memory = machine.threads.map Thread.memory) ∧
      (options.keepsTrace = true → ∃ notices,
        Machine.History session.freshMachine.program machine notices ∧
        session.recorder.trace = notices.map Notice.event ∧
        session.recorder.trace.length = machine.stepCount + started ∧
        session.recorder.trace.countP Event.isEnded + machine.threads.length = started ∧
        notices.Pairwise fun earlier later =>
          earlier.event.isEnded = true → later.key ≠ earlier.key)) ∧
    (options.keepsTrace = false → session.recorder.trace = []) ∧
    ∀ keepsTrace,
      ((create text { options with keepsTrace := keepsTrace } path stamp observers
        threshold).afterAll calls).recorder.table = session.recorder.table := by
  intro fresh session started
  have recorded : session.Recorded False 0 :=
    (Recorded.create False text options path stamp observers threshold).afterAll stays nofun
  obtain ⟨keeps, aligned, notices, history, trace_eq⟩ := recorded.recordedBy
  have options_eq : session.options = options := options_afterAll fresh calls
  rw [keeps, options_eq] at trace_eq
  refine ⟨?_, ?_, ?_⟩
  · intro machine machine_eq
    have current : session.currentMachine = machine := by
      rw [currentMachine, machine_eq]
      rfl
    have count : machine.nextKey = started := by
      rw [recorded.counted machine machine_eq, threadsStarted, ← clicks_receipt]
      rfl
    rw [current] at aligned history
    refine ⟨aligned.keys_eq, ?_, ?_, ?_⟩
    · rw [Recorder.states, List.map_map]
      exact aligned.map_eq fun shown => Prod.ext shown.name shown.pointer.symm
    · intro earlier later calls_eq begins unfailing
      have recordedFully : session.Recorded True 0 := by
        subst calls_eq
        exact recorded_afterAll_of_unfailing text options path stamp observers threshold stays
          begins unfailing
      obtain ⟨_, alignedFully, _⟩ := recordedFully.recordedBy
      rw [current] at alignedFully
      rw [Recorder.states, List.map_map]
      exact alignedFully.map_eq fun shown => shown.memory trivial
    · intro traced
      rw [if_pos traced] at trace_eq
      refine ⟨notices, history, trace_eq, ?_, ?_, history.ended_last⟩
      · rw [trace_eq, List.length_map, history.length_eq, count]
      · rw [trace_eq, List.countP_map, ← count, ← history.count_ended]
        rfl
  · intro untraced
    rw [trace_eq, untraced]
    rfl
  · intro keepsTrace
    exact table_afterAll text options path stamp observers threshold stays keepsTrace

/-- Two threads that share a name are started by a click, and the main thread ends. -/
theorem table_and_trace_follow_machine_shared_name :
    let fresh := create "-- volute\nh\nMOUSE h\nMOUSE x h".toList ⟨false, 5, true⟩ none
      ⟨"now", "one"⟩ [.reporter 10] 10
    let session := fresh.afterAll [.start, .click ⟨0, 0⟩, .step]
    session.recorder.states.map (fun state => (state.name, some state.location)) =
        [("mouse:1:1", some ⟨2, 0⟩), ("mouse:1:1", some ⟨3, 0⟩)] ∧
      session.recorder.states.map ThreadState.memory = [["1:1".toList], ["1:1".toList]] ∧
      session.recorder.trace.length = 4 ∧ session.recorder.trace.countP Event.isEnded + 2 = 3 := by
  intro fresh session
  have current : session.machine = some session.currentMachine := by decide +kernel
  have started : ((fresh.afterAll [.start]).after (.click ⟨0, 0⟩)).machine =
      some ((fresh.afterAll [.start]).after (.click ⟨0, 0⟩)).currentMachine := by decide +kernel
  have stepped : Machine.step (((fresh.afterAll [.start]).after (.click ⟨0, 0⟩)).currentMachine,
      ((fresh.afterAll [.start]).after (.click ⟨0, 0⟩)).monitor) =
      .ok () (leftBy (Machine.step
        (((fresh.afterAll [.start]).after (.click ⟨0, 0⟩)).currentMachine,
          ((fresh.afterAll [.start]).after (.click ⟨0, 0⟩)).monitor))) := by decide +kernel
  have unfailing : (fresh.afterAll [.start]).Unfailing [.click ⟨0, 0⟩, .step] := by
    refine ⟨?_, ?_, trivial⟩
    · intro before attempts
      cases attempts
    · intro before attempts
      rw [attempts.eq_of_started started]
      exact stepsOn_of_started started stepped
  obtain ⟨follows, _, _⟩ := table_and_trace_follow_machine
    "-- volute\nh\nMOUSE h\nMOUSE x h".toList ⟨false, 5, true⟩ none ⟨"now", "one"⟩ [.reporter 10] 10
    [.start, .click ⟨0, 0⟩, .step] (by decide +kernel)
  obtain ⟨_, shown, memories, traced⟩ := follows session.currentMachine current
  obtain ⟨notices, _, _, length_eq, count_eq, _⟩ := traced rfl
  refine ⟨shown.trans ?_, ?_, length_eq.trans ?_, ?_⟩
  · decide +kernel
  · rw [memories [.start] [.click ⟨0, 0⟩, .step] rfl (.inr rfl) unfailing]
    decide +kernel
  · decide +kernel
  · have live : session.currentMachine.threads.length = 2 := by decide +kernel
    rw [live] at count_eq
    exact count_eq.trans (by decide +kernel)

end Palimpsest.Session

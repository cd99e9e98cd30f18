import Mathlib.Logic.Relation
import Palimpsest.Proofs.Session.Extent

/-!
# What a session does to its machine

Whatever is called, a session does only three things to its machine: it starts
threads at letters of words, it lets the machine make a step, and it has the view
redrawn. This holds on every grid and whether these acts succeed or fail, so what
each of them keeps is true of the machine of a session at all times, as soon as it
is true of the machine that a start begins with.
-/

namespace Palimpsest

namespace Session

/-- The machine that a session works with, if any, and what it would start with. -/
def engine (session : Session) : Option Machine × Text × Options :=
  (session.machine, session.source, session.options)

theorem engine_apartFromBooks : ApartFromBooks engine :=
  fun _ _ _ _ => rfl

/-- What a click puts into memory is the text of a location. -/
theorem addresses_of_encode_eq_ok {location : Location} {shown : Text}
    (encoded : location.encode = .ok shown) :
    ∀ value ∈ [shown], ∃ place : Location, value = place.text := by
  unfold Location.encode at encoded
  split at encoded
  · intro value member
    exact ⟨location, (List.mem_singleton.mp member).trans (Except.ok.inj encoded).symm⟩
  · cases encoded

end Session

variable [Cluster.Splitter]

namespace Machine

/-- One of the things that a session does to its machine, be it a success or a
failure. -/
inductive Act : Machine → Machine → Prop
  /-- A thread is to join at a letter of a word, with locations in its memory. -/
  | join {machine : Machine} (monitor : Monitor) (name : String) {location : Location}
      {memory : List Text} (ink : machine.program.grid.HasInk location)
      (addresses : ∀ value ∈ memory, ∃ place : Location, value = place.text) :
      Act machine (leftBy (startThread name location memory (machine, monitor))).1
  /-- The thread under the cursor is to make a step. -/
  | step (machine : Machine) (monitor : Monitor) :
      Act machine (leftBy (step (machine, monitor))).1
  /-- The view is redrawn. -/
  | redraw (machine : Machine) :
      Act machine { machine with program := machine.program.updateView.1 }

/-- A property of programs and one of threads on their program that no act spoils. A
thread that has ended by a step of its own is not looked at any more. -/
structure Lasting (fine : Program → Prop) (good : Program → Thread → Prop) : Prop where
  joined : ∀ {program : Program} {location : Location} {memory : List Text}
    (name : String) (key : ThreadKey), fine program → program.grid.HasInk location →
    (∀ value ∈ memory, ∃ place : Location, value = place.text) →
    good program ⟨name, key, some location, memory⟩
  stepped : ∀ {scene next : Scene}, fine scene.program → good scene.program scene.thread →
    Scene.step scene = .ok () next →
    fine next.program ∧ (next.thread.isRunning = true → good next.program next.thread)
  failed : ∀ {scene next : Scene} {failure : Failure}, fine scene.program →
    good scene.program scene.thread → Scene.step scene = .error failure next →
    fine next.program ∧ good next.program next.thread
  watched : ∀ (scene : Scene) {thread : Thread}, good scene.program thread →
    good (leftBy (Scene.step scene)).program thread
  redrawn : ∀ {program : Program}, fine program → fine program.updateView.1 ∧
    ∀ thread, good program thread → good program.updateView.1 thread

/-- The program and all threads of a machine are as they should be. -/
def Sound (fine : Program → Prop) (good : Program → Thread → Prop) (machine : Machine) : Prop :=
  fine machine.program ∧ ∀ thread ∈ machine.threads, good machine.program thread

section Lasting

variable {fine : Program → Prop} {good : Program → Thread → Prop} {machine next : Machine}
  {monitor : Monitor}

/-- A thread that is to join does so, or the machine stays as it was. -/
theorem Lasting.sound_startThread (lasting : Lasting fine good) (sound : machine.Sound fine good)
    (name : String) {location : Location} {memory : List Text}
    (ink : machine.program.grid.HasInk location)
    (addresses : ∀ value ∈ memory, ∃ place : Location, value = place.text) :
    (leftBy (startThread name location memory (machine, monitor))).1.Sound fine good := by
  have joined : ∀ thread ∈ machine.threads ++
      [⟨name, .number machine.nextKey, some location, memory⟩],
      good machine.program thread := by
    intro thread member
    rcases List.mem_append.mp member with member | member
    · exact sound.2 thread member
    · rw [List.mem_singleton.mp member]
      exact lasting.joined name _ sound.1 ink addresses
  unfold startThread
  dsimp only
  split
  · exact sound
  · split
    · exact ⟨sound.1, joined⟩
    · exact ⟨sound.1, joined⟩

theorem Lasting.sound_step (lasting : Lasting fine good) (sound : machine.Sound fine good)
    (monitor : Monitor) : (leftBy (step (machine, monitor))).1.Sound fine good := by
  cases under : machine.threads[machine.cursor]? with
  | none =>
      rw [step_of_idle under]
      exact sound
  | some thread =>
      have standing := sound.2 thread (List.mem_of_getElem? under)
      have watched : ∀ other ∈ machine.threads,
          good (leftBy (Scene.step ⟨thread, machine.program, monitor⟩)).program other :=
        fun other member => lasting.watched ⟨thread, machine.program, monitor⟩
          (sound.2 other member)
      cases stepped : Scene.step ⟨thread, machine.program, monitor⟩ with
      | error failure scene =>
          rw [stepped] at watched
          obtain ⟨fineLeft, goodLeft⟩ := lasting.failed sound.1 standing stepped
          rw [step_of_scene_error under stepped]
          refine ⟨fineLeft, fun other member => ?_⟩
          rcases List.mem_or_eq_of_mem_set member with member | rfl
          · exact watched other member
          · exact goodLeft
      | ok value scene =>
          rw [stepped] at watched
          obtain ⟨fineLeft, goodLeft⟩ := lasting.stepped sound.1 standing stepped
          obtain ⟨told, step_eq⟩ := step_of_scene_ok under stepped
          rw [step_eq]
          refine ⟨fineLeft, fun other member => ?_⟩
          simp only [leftBy, afterStep] at member
          split at member
          · rename_i live
            rcases List.mem_or_eq_of_mem_set member with member | rfl
            · exact watched other member
            · exact goodLeft live
          · exact watched other (List.mem_of_mem_eraseIdx member)

/-- What lasts is kept by every act. -/
theorem Lasting.sound (lasting : Lasting fine good) (act : Act machine next)
    (sound : machine.Sound fine good) : next.Sound fine good := by
  cases act with
  | join monitor name ink addresses => exact lasting.sound_startThread sound name ink addresses
  | step monitor => exact lasting.sound_step sound monitor
  | redraw =>
      obtain ⟨fineRedrawn, goodRedrawn⟩ := lasting.redrawn sound.1
      exact ⟨fineRedrawn, fun thread member => goodRedrawn thread (sound.2 thread member)⟩

end Lasting

/-- One machine comes from another by a chain of acts. -/
abbrev Acts : Machine → Machine → Prop :=
  Relation.ReflTransGen Act

/-- What every act keeps is kept by every chain of acts. -/
theorem Acts.keep {good : Machine → Prop}
    (keeps : ∀ {machine next : Machine}, Act machine next → good machine → good next)
    {machine next : Machine} (acts : Acts machine next) (holds : good machine) : good next := by
  induction acts with
  | refl => exact holds
  | tail _ act inductionHypothesis => exact keeps act inductionHypothesis

end Machine

namespace Session

/-- The machine of a session: the one it works with, or the one it would start
with. -/
def currentMachine (session : Session) : Machine :=
  session.machine.getD session.freshMachine

/-- The session has come from another by acts on its machine. Its source and its
options are the same, so it would start with the same machine. -/
structure Follows (session next : Session) : Prop where
  source : next.source = session.source
  options : next.options = session.options
  acts : session.currentMachine.Acts next.currentMachine

theorem Follows.fresh {session next : Session} (follows : session.Follows next) :
    next.freshMachine = session.freshMachine := by
  rw [freshMachine, freshMachine, follows.source, follows.options]

theorem Follows.refl (session : Session) : session.Follows session :=
  ⟨rfl, rfl, .refl⟩

theorem Follows.trans {first second third : Session} (before : first.Follows second)
    (after : second.Follows third) : first.Follows third :=
  ⟨after.source.trans before.source, after.options.trans before.options,
    before.acts.trans after.acts⟩

/-- What follows may use that the first part has succeeded. -/
theorem Follows.bind {α β : Type} {first : Action α} {next : α → Action β} {session : Session}
    (left : session.Follows (leftBy (first session)))
    (followsNext : ∀ value middle, first session = .ok value middle →
      middle.Follows (leftBy (next value middle))) :
    session.Follows (leftBy ((first >>= next) session)) := by
  apply holds_leftBy_bind left
  intro value middle succeeded follows
  exact follows.trans (followsNext value middle succeeded)

/-! ## Operations that only act on the machine -/

/-- The operation only acts on the machine, whether it succeeds or fails. -/
def Drives {α : Type} (action : Action α) : Prop :=
  ∀ session : Session, session.Follows (leftBy (action session))

theorem Follows.of_engine_eq {session next : Session} (same : next.engine = session.engine) :
    session.Follows next := by
  injection same with machine_eq origin_eq
  injection origin_eq with source_eq options_eq
  have current_eq : next.currentMachine = session.currentMachine := by
    rw [currentMachine, currentMachine, freshMachine, freshMachine, machine_eq, source_eq,
      options_eq]
  exact ⟨source_eq, options_eq, current_eq ▸ .refl⟩

/-- What keeps the machine as it is drives it nowhere. -/
theorem Keeps.drives {α : Type} {action : Action α} (keeps : Keeps engine action) :
    Drives action :=
  fun session => .of_engine_eq (keeps session)

namespace Drives

variable {α β : Type}

theorem pure (value : α) : Drives (pure value : Action α) :=
  fun session => .refl session

theorem get : Drives (get : Action Session) :=
  fun session => .refl session

theorem bind {first : Action α} {next : α → Action β} (drives : Drives first)
    (drivesNext : ∀ value, Drives (next value)) : Drives (first >>= next) :=
  fun session => (drives session).bind fun value middle _ => drivesNext value middle

theorem syncView : Drives syncView := by
  intro session
  cases started : session.machine with
  | none =>
      rw [syncView_of_unstarted started]
      exact .refl session
  | some machine =>
      by_cases immediate : session.options.immediate = true
      · rw [syncView_of_immediate immediate]
        exact .refl session
      · obtain ⟨monitor, sync_eq⟩ := syncView_of_deferred started (by simpa using immediate)
        rw [sync_eq]
        refine ⟨rfl, rfl, ?_⟩
        rw [currentMachine, started]
        exact .single (.redraw machine)

end Drives

/-! ## Starts -/

/-- What a machine is made to do by its session is an act when it is one on the
machine of the session. -/
theorem follows_leftBy_onMachine {α : Type} {action : Machine.Action α} {session : Session}
    (acts : session.currentMachine.Acts
      (leftBy (action (session.currentMachine, session.monitor))).1) :
    session.Follows (leftBy (onMachine session.currentMachine action session)) := by
  unfold onMachine
  cases result : action (session.currentMachine, session.monitor) with
  | ok value state =>
      rw [result] at acts
      exact ⟨rfl, rfl, acts⟩
  | error failure state =>
      rw [result] at acts
      exact ⟨rfl, rfl, acts⟩

/-- Starting the main thread is starting a thread at the entry point, if there is
one. -/
theorem acts_leftBy_startMain {machine : Machine}
    (enters : ∀ entry, machine.program.entry = some entry → machine.program.grid.HasInk entry)
    (monitor : Monitor) :
    machine.Acts (leftBy (Machine.startMain (machine, monitor))).1 := by
  change machine.Acts
    (leftBy (Machine.start Machine.mainName machine.program.entry [] (machine, monitor))).1
  cases entered : machine.program.entry with
  | none => exact .refl
  | some entry =>
      have act : machine.Act (leftBy (Machine.startThread Machine.mainName entry []
          (machine, monitor))).1 :=
        .join monitor Machine.mainName (enters entry entered) (by rintro _ ⟨⟩)
      unfold Machine.start
      cases joined : Machine.startThread Machine.mainName entry [] (machine, monitor) with
      | ok value state =>
          rw [joined] at act
          rw [leftBy_bind_of_ok joined]
          exact .single act
      | error failure state =>
          rw [joined] at act
          rw [leftBy_bind_of_error joined]
          exact .single act

/-- A start acts on the machine that it begins with. -/
theorem follows_leftBy_start (session : Session) :
    session.reset.Follows (leftBy (start session)) := by
  rw [start_eq]
  have remarked : Keeps engine (remarkEntry session.freshMachine.program.entry) :=
    engine_apartFromBooks.keeps_remarkEntry _
  apply (remarked.drives session.reset).bind
  intro _ middle remark_eq
  have engine_eq := remarked session.reset
  rw [remark_eq] at engine_eq
  have current_eq : middle.currentMachine = session.freshMachine := by
    injection engine_eq with machine_eq _
    have machine_eq : middle.machine = some session.freshMachine := machine_eq
    rw [currentMachine, machine_eq]
    rfl
  apply Follows.bind
  · rw [← current_eq]
    apply follows_leftBy_onMachine
    apply acts_leftBy_startMain
    rw [current_eq]
    exact fun entry => Grid.hasInk_of_entry_eq_some
  · intro _ started _
    exact engine_apartFromBooks.keeps_settleIfIdle.drives started

theorem Drives.ensureMachine : Drives ensureMachine := by
  intro session
  cases started : session.machine with
  | some machine =>
      rw [ensureMachine_of_started started]
      exact .refl session
  | none =>
      rw [ensureMachine_of_unstarted started]
      have resetCurrent : session.Follows session.reset := by
        refine ⟨rfl, rfl, ?_⟩
        rw [currentMachine, started]
        exact .refl
      apply (resetCurrent.trans (follows_leftBy_start session)).bind
      intro _ middle _
      exact .refl middle

theorem currentMachine_of_ensured {session ready : Session} {machine : Machine}
    (ensured : ensureMachine session = .ok machine ready) : machine = ready.currentMachine :=
  machine_of_ensured ensured

/-! ## Steps and runs -/

theorem follows_leftBy_stepMachine (session : Session) :
    session.Follows (leftBy (stepMachine session.currentMachine session)) := by
  have act := Machine.Act.step session.currentMachine session.monitor
  cases stepped : Machine.step (session.currentMachine, session.monitor) with
  | ok value state =>
      rw [stepped] at act
      rw [stepMachine_of_ok stepped]
      exact ⟨rfl, rfl, .single act⟩
  | error failure state =>
      rw [stepped] at act
      by_cases faulty : ∃ fault, failure = .fault fault
      · rcases faulty with ⟨fault, rfl⟩
        rw [stepMachine_of_fault stepped]
        have noted : session.Follows (noting
            { session with machine := some state.1, monitor := state.2 } fault) :=
          ⟨rfl, rfl, .single act⟩
        exact noted.trans (Drives.syncView _)
      · rw [stepMachine_of_error stepped fun fault same => faulty ⟨fault, same⟩]
        exact ⟨rfl, rfl, .single act⟩

namespace Drives

theorem step : Drives step := by
  intro session
  apply (ensureMachine session).bind
  intro machine ready ensured
  rw [currentMachine_of_ensured ensured]
  apply (get ready).bind
  rintro _ _ ⟨⟩
  split
  · exact .refl ready
  · split
    · apply (follows_leftBy_stepMachine ready).bind
      intro stepped middle _
      split
      · exact bind engine_apartFromBooks.keeps_settleIfIdle.drives (fun _ => pure true) middle
      · exact .refl middle
    · exact bind (engine_apartFromBooks.keeps_settle _).drives (fun _ => pure false) ready

theorem runSteps (total budget : Nat) : Drives (runSteps total budget) := by
  induction budget with
  | zero => exact (engine_apartFromBooks.keeps_runSteps_zero total).drives
  | succ budget inductionHypothesis =>
      rw [Session.runSteps]
      apply bind get
      intro session
      split
      · apply bind step
        intro executed
        split
        · exact inductionHypothesis
        · exact pure ()
      · exact pure ()

theorem rest : Drives rest :=
  bind ensureMachine fun machine =>
    bind (engine_apartFromBooks.keeps_restedStatus machine).drives fun _ =>
      bind syncView fun _ => pure _

theorem run (limit : Option Int) : Drives (run limit) := by
  apply bind ensureMachine
  intro machine
  apply bind get
  intro session
  split
  · exact pure _
  · exact bind get fun session => bind (engine_apartFromBooks.keeps_setStatus _).drives fun _ =>
      bind (runSteps _ _) fun _ => rest

/-! ## Stops and clicks -/

theorem stop : Drives stop := by
  apply bind get
  intro session
  split
  · exact pure ()
  · exact bind (engine_apartFromBooks.keeps_setStatus _).drives fun _ =>
      bind (engine_apartFromBooks.keeps_remark _ _ _).drives fun _ => syncView

end Drives

/-- Threads that are started one after the other at letters of words, with locations
in their memories. -/
theorem follows_leftBy_startAll {session : Session} (name : String) {memory : List Text}
    (addresses : ∀ value ∈ memory, ∃ place : Location, value = place.text)
    {handlers : List Location} (inks : ∀ handler ∈ handlers, session.grid.HasInk handler) :
    session.Follows (leftBy (startAll name memory handlers session)) := by
  induction handlers generalizing session with
  | nil => exact .refl session
  | cons handler rest inductionHypothesis =>
      apply (Drives.ensureMachine session).bind
      intro machine ready ensured
      obtain ⟨readyGrid, machineGrid⟩ := grid_of_ensured ensured
      have ink : machine.program.grid.HasInk handler := by
        rw [machineGrid]
        exact inks handler List.mem_cons_self
      have act : machine.Act
          (leftBy (Machine.startThread name handler memory (machine, ready.monitor))).1 :=
        .join ready.monitor name ink addresses
      have joins : ready.Follows
          (leftBy (onMachine machine (Machine.startThread name handler memory) ready)) := by
        rw [currentMachine_of_ensured ensured] at act ⊢
        exact follows_leftBy_onMachine (.single act)
      apply joins.bind
      intro _ joined joined_eq
      apply inductionHypothesis
      intro later member
      have kept := grid_leftBy_onMachine machine (Machine.startThread name handler memory) ready
      rw [joined_eq, program_leftBy_startThread, machineGrid] at kept
      rw [show joined.grid = session.grid from kept]
      exact inks later (List.mem_cons_of_mem handler member)

theorem Drives.click (location : Location) : Drives (click location) := by
  intro session
  apply (ensureMachine session).bind
  intro machine ready ensured
  apply (get ready).bind
  rintro _ _ ⟨⟩
  split
  · exact .refl ready
  · cases encoded : location.encode with
    | error failure => exact .refl ready
    | ok shown =>
        have inks : ∀ handler ∈ machine.program.clickHandlers, ready.grid.HasInk handler := by
          intro handler member
          obtain ⟨readyGrid, machineGrid⟩ := grid_of_ensured ensured
          rw [readyGrid, ← machineGrid]
          exact Grid.hasInk_of_mem_clickHandlersFrom member
        apply (follows_leftBy_startAll _ (addresses_of_encode_eq_ok encoded) inks).bind
        intro _ joined _
        have noted : Drives (modify fun session =>
            { session with clicks := session.clicks ++
              [⟨location, machine.program.clickHandlers.map fun _ =>
                "mouse:" ++ String.ofList shown⟩] } : Action Unit) :=
          fun session => .of_engine_eq rfl
        apply (noted joined).bind
        intro _ middle _
        apply ((engine_apartFromBooks.keeps_remark _ _ _).drives middle).bind
        intro _ remarked _
        split
        · exact .refl remarked
        · exact bind (engine_apartFromBooks.keeps_setStatus _).drives (fun _ => pure _) remarked

/-! ## Calls -/

/-- Every call but a start only acts on the machine. -/
theorem Drives.perform {call : Call} (other : call ≠ .start) : Drives (perform call) := by
  cases call with
  | start => exact absurd rfl other
  | step => exact bind step fun _ => pure _
  | run limit => exact bind (run limit) fun _ => pure _
  | stop => exact bind stop fun _ => pure _
  | click location => exact bind (click location) fun _ => pure _

theorem follows_after (session : Session) {call : Call} (other : call ≠ .start) :
    session.Follows (session.after call) := by
  rw [after_eq_leftBy]
  exact Drives.perform other session

theorem follows_after_start (session : Session) :
    session.reset.Follows (session.after .start) := by
  rw [after_eq_leftBy]
  exact (follows_leftBy_start session).bind fun _ started _ => .refl started

/-- As long as nothing is started over, calls only act on the machine. -/
theorem follows_afterAll {session : Session} {calls : List Call} (others : .start ∉ calls) :
    session.Follows (session.afterAll calls) := by
  induction calls generalizing session with
  | nil => exact .refl session
  | cons call rest inductionHypothesis =>
      have other : call ≠ .start := fun same => others (by simp [same])
      have restOthers : .start ∉ rest := fun member => others (by simp [member])
      exact (follows_after session other).trans (inductionHypothesis restOthers)

/-- No call touches the source. -/
theorem source_afterAll (session : Session) (calls : List Call) :
    (session.afterAll calls).source = session.source :=
  congrArg Setup.source (setup_afterAll session calls)

/-- What is true of the machine that a session starts with, and is kept by every
act, is true of its machine after any calls. -/
theorem holds_afterAll {good : Machine → Prop}
    (keeps : ∀ {machine next : Machine}, machine.Act next → good machine → good next)
    {session : Session} (fresh : good session.freshMachine)
    (current : good session.currentMachine) (calls : List Call) :
    good (session.afterAll calls).currentMachine := by
  induction calls generalizing session with
  | nil => exact current
  | cons call rest inductionHypothesis =>
      by_cases restarts : call = .start
      · subst restarts
        have follows := follows_after_start session
        exact inductionHypothesis (follows.fresh ▸ fresh) (follows.acts.keep keeps fresh)
      · have follows := follows_after session restarts
        exact inductionHypothesis (follows.fresh ▸ fresh) (follows.acts.keep keeps current)

/-- What lasts and is true of the program as it is loaded holds after any calls. -/
theorem sound_afterAll {fine : Program → Prop} {good : Program → Thread → Prop}
    (lasting : Machine.Lasting fine good) (text : Text) (options : Options)
    (path : Option String) (stamp : Stamp) (observers : List Observer) (threshold : Int)
    (loaded : fine (.load (Buffer.load text).text options.immediate)) (calls : List Call) :
    ((create text options path stamp observers threshold).afterAll calls).currentMachine.Sound
      fine good := by
  have fresh : (create text options path stamp observers threshold).freshMachine.Sound
      fine good := by
    constructor
    · exact loaded
    · intro thread member
      cases member
  exact holds_afterAll lasting.sound fresh fresh calls

end Session

end Palimpsest

import Palimpsest.Proofs.Thread.Step

/-!
# Rounds

A machine keeps its threads in one list, with a cursor that goes round. Seen from
the cursor these are two queues: the threads that are still to run in this round
and those that have run already. A step runs the first one of the first queue,
and it goes to the end of the second unless it has ended; a thread that is
started goes to the end of the first; and when the first queue is empty, the two
are exchanged. So between two steps of a thread every other one has its turn.
-/

namespace Palimpsest

/-- The threads that are still to run in this round, and those that have run. -/
structure Rota where
  waiting : List Thread
  served : List Thread
  deriving DecidableEq, Repr

namespace Rota

/-- When nobody is left to run, the queues are exchanged. -/
def exchanged (rota : Rota) : Rota :=
  if rota.waiting.isEmpty then ⟨rota.served, rota.waiting⟩ else rota

/-- A thread joins at the end of those that are still to run. -/
def join (rota : Rota) (thread : Thread) : Rota :=
  ⟨rota.waiting ++ [thread], rota.served⟩

/-- The first of those that were still to run has become `stepped` by its step. It
goes to the end of those that have run, unless it has ended. -/
def serve (rota : Rota) (stepped : Thread) : Rota :=
  exchanged
    ⟨rota.waiting.tail, rota.served ++ if stepped.isRunning then [stepped] else []⟩

/-- The keys of all threads, in the order of their next turns. -/
def keys (rota : Rota) : List ThreadKey :=
  (rota.waiting ++ rota.served).map Thread.key

theorem keys_exchanged (rota : Rota) : rota.exchanged.keys = rota.keys := by
  unfold exchanged
  split
  · rename_i empty
    rw [List.isEmpty_iff] at empty
    simp [keys, empty]
  · rfl

theorem keys_join (rota : Rota) (thread : Thread) :
    (rota.join thread).keys =
      rota.waiting.map Thread.key ++ thread.key :: rota.served.map Thread.key := by
  simp [keys, join]

/-- A turn takes the first key to the end, or takes it off. -/
theorem keys_serve {rota : Rota} {head stepped : Thread} {rest : List Thread}
    (first : rota.waiting = head :: rest) (same : stepped.key = head.key) :
    ∃ others, rota.keys = head.key :: others ∧
      (rota.serve stepped).keys = others ++ if stepped.isRunning then [head.key] else [] := by
  refine ⟨(rest ++ rota.served).map Thread.key, by simp [keys, first], ?_⟩
  rw [serve, keys_exchanged]
  cases running : stepped.isRunning with
  | true => simp [keys, first, same]
  | false => simp [keys, first]

end Rota

namespace Machine

/-- The threads of a machine from its cursor on are those that are still to run. -/
def rota (machine : Machine) : Rota where
  waiting := machine.threads.drop machine.cursor
  served := machine.threads.take machine.cursor

/-- The cursor of a machine stands at a thread, or at the beginning when there is
none. -/
def CursorStands (machine : Machine) : Prop :=
  machine.cursor < machine.threads.length ∨ machine.threads = [] ∧ machine.cursor = 0

variable {machine next : Machine} {monitor told : Monitor} {state after : Machine × Monitor}

theorem served_append_waiting (machine : Machine) :
    machine.rota.served ++ machine.rota.waiting = machine.threads :=
  List.take_append_drop machine.cursor machine.threads

theorem rota_eq {served waiting : List Thread} (threads_eq : machine.threads = served ++ waiting)
    (cursor_eq : machine.cursor = served.length) : machine.rota = ⟨waiting, served⟩ := by
  simp [rota, threads_eq, cursor_eq]

theorem mem_keys_rota_iff {key : ThreadKey} :
    key ∈ machine.rota.keys ↔ ∃ thread ∈ machine.threads, thread.key = key := by
  rw [Rota.keys, List.mem_map, ← served_append_waiting machine]
  simp only [List.mem_append, or_comm]

/-! ## Steps and starts -/

/-- The thread under the cursor divides the others into those that have run and
those that are still to run. -/
theorem exists_threads_eq {thread : Thread}
    (under : machine.threads[machine.cursor]? = some thread) :
    ∃ served rest, machine.threads = served ++ thread :: rest ∧
      machine.cursor = served.length := by
  rcases List.getElem?_eq_some_iff.mp under with ⟨cursor_lt, rfl⟩
  refine ⟨machine.threads.take machine.cursor, machine.threads.drop (machine.cursor + 1), ?_, ?_⟩
  · rw [← List.drop_eq_getElem_cons cursor_lt, List.take_append_drop]
  · rw [List.length_take, Nat.min_eq_left (Nat.le_of_lt cursor_lt)]

/-- A step changes the thread under the cursor, and takes it out when it has ended. -/
theorem threads_afterStep {served rest : List Thread} {thread : Thread}
    (threads_eq : machine.threads = served ++ thread :: rest)
    (cursor_eq : machine.cursor = served.length) (stepped : Thread) (program : Program) :
    (machine.afterStep stepped program).threads =
      served ++ (if stepped.isRunning then [stepped] else []) ++ rest := by
  cases running : stepped.isRunning with
  | true => simp [afterStep, running, threads_eq, cursor_eq]
  | false =>
      have erased : (served ++ thread :: rest).eraseIdx served.length = served ++ rest := by
        rw [List.eraseIdx_append_of_length_le (Nat.le_refl _), Nat.sub_self]
        rfl
      simp [afterStep, running, threads_eq, cursor_eq, erased]

/-- A cursor that is wrapped when it has passed the last thread exchanges the
queues when nobody is left to run. -/
theorem rota_of_wrapped {served waiting : List Thread}
    (threads_eq : machine.threads = served ++ waiting)
    (cursor_eq : machine.cursor = wrap served.length machine.threads.length) :
    machine.rota = Rota.exchanged ⟨waiting, served⟩ ∧ machine.CursorStands := by
  cases waiting with
  | nil =>
      rw [List.append_nil] at threads_eq
      have start : machine.cursor = 0 := by
        rw [cursor_eq, threads_eq]
        exact if_pos (Nat.le_refl _)
      constructor
      · exact rota_eq threads_eq start
      · cases served with
        | nil => exact .inr ⟨threads_eq, start⟩
        | cons first others =>
            left
            rw [start, threads_eq]
            exact Nat.succ_pos _
  | cons following others =>
      have stands : served.length < machine.threads.length := by
        rw [threads_eq]
        simp
      have stays : machine.cursor = served.length := by
        rw [cursor_eq]
        exact if_neg (Nat.not_le.mpr stands)
      constructor
      · exact rota_eq threads_eq stays
      · left
        rw [stays]
        exact stands

/-- A step serves the first of those that are still to run, and leaves the cursor
at a thread. -/
theorem rota_afterStep {thread : Thread} (stepped : Thread) (program : Program)
    (under : machine.threads[machine.cursor]? = some thread) :
    (machine.afterStep stepped program).rota = machine.rota.serve stepped ∧
      (machine.afterStep stepped program).CursorStands := by
  obtain ⟨served, rest, threads_eq, cursor_eq⟩ := exists_threads_eq under
  have stepped_eq := threads_afterStep threads_eq cursor_eq stepped program
  rw [rota_eq threads_eq cursor_eq, Rota.serve]
  apply rota_of_wrapped stepped_eq
  cases running : stepped.isRunning with
  | true => simp [afterStep, running, cursor_eq]
  | false => simp [afterStep, running, cursor_eq]

end Machine

/-- A step does not change whose it is. -/
theorem Scene.key_leftBy_step (scene : Scene) :
    (leftBy (step scene)).thread.key = scene.thread.key := by
  cases running : scene.thread.pointer with
  | none =>
      rw [step_of_ended running]
      rfl
  | some location =>
      by_cases fits : location.fits = true
      · cases performed : Frame.perform (scene.program.grid.readWord location)
            (scene.frame location) with
        | error failure frame =>
            rw [step_of_perform_error running fits performed]
            rfl
        | ok target frame => rw [(leftBy_step_of_perform_ok running fits performed).1]
      · rw [step_of_not_fits running (by simpa using fits)]
        rfl

theorem Scene.key_of_step_eq_ok {scene next : Scene} (stepped : step scene = .ok () next) :
    next.thread.key = scene.thread.key := by
  have kept := key_leftBy_step scene
  rwa [stepped] at kept

namespace Machine

variable {machine next : Machine} {monitor told : Monitor} {state after : Machine × Monitor}

/-- A step that succeeds finds nobody to run, or is one of the thread under the
cursor. -/
theorem step_eq_ok (stepped : step (machine, monitor) = .ok () (next, told)) :
    machine.threads[machine.cursor]? = none ∧ next = machine ∨
      ∃ thread scene, machine.threads[machine.cursor]? = some thread ∧
        Scene.step ⟨thread, machine.program, monitor⟩ = .ok () scene ∧
        next = machine.afterStep scene.thread scene.program := by
  cases under : machine.threads[machine.cursor]? with
  | none =>
      rw [step_of_idle under] at stepped
      cases stepped
      exact .inl ⟨rfl, rfl⟩
  | some thread =>
      cases sceneStepped : Scene.step ⟨thread, machine.program, monitor⟩ with
      | error failure scene =>
          rw [step_of_scene_error under sceneStepped] at stepped
          cases stepped
      | ok value scene =>
          obtain ⟨_, step_eq⟩ := step_of_scene_ok under sceneStepped
          rw [stepped] at step_eq
          cases step_eq
          exact .inr ⟨thread, scene, rfl, sceneStepped, rfl⟩

/-- The thread that a start adds to a machine. -/
def newcomer (machine : Machine) (name : String) (location : Location) (memory : List Text) :
    Thread :=
  ⟨name, .number machine.nextKey, some location, memory⟩

/-- The machine with one more thread. -/
def joined (machine : Machine) (thread : Thread) : Machine :=
  { machine with threads := machine.threads ++ [thread], nextKey := machine.nextKey + 1 }

/-- A start that succeeds adds a thread, and one that fails may have done so. -/
theorem start_cases (machine : Machine) (monitor : Monitor) (name : String) (location : Location)
    (memory : List Text) :
    (∃ told, start name (some location) memory (machine, monitor) =
      .ok true (machine.joined (machine.newcomer name location memory), told)) ∨
    ∃ failure left told, start name (some location) memory (machine, monitor) =
        .error failure (left, told) ∧
      (left = machine ∨ left = machine.joined (machine.newcomer name location memory)) := by
  have unfolded : start name (some location) memory =
      (startThread name location memory >>= fun _ => pure true) :=
    rfl
  cases started : startThread name location memory (machine, monitor) with
  | ok value after =>
      rw [unfolded, bind_of_ok started]
      unfold startThread at started
      dsimp only at started
      split at started
      · cases started
      · split at started
        · cases started
          exact .inl ⟨_, rfl⟩
        · cases started
  | error failure left =>
      rw [unfolded, bind_of_error started]
      unfold startThread at started
      dsimp only at started
      split at started
      · cases started
        exact .inr ⟨_, _, _, rfl, .inl rfl⟩
      · split at started
        · cases started
        · cases started
          exact .inr ⟨_, _, _, rfl, .inr rfl⟩

/-- A thread that joins is the last of those that are still to run. -/
theorem CursorStands.rota_joined (stands : machine.CursorStands) (thread : Thread) :
    (machine.joined thread).rota = machine.rota.join thread ∧
      (machine.joined thread).CursorStands := by
  have inside : machine.cursor ≤ machine.threads.length := by
    rcases stands with inside | ⟨_, start⟩
    · exact Nat.le_of_lt inside
    · rw [start]
      exact Nat.zero_le _
  constructor
  · simp only [rota, joined, Rota.join, List.drop_append_of_le_length inside,
      List.take_append_of_le_length inside]
  · left
    simp only [joined, List.length_append, List.length_singleton]
    exact Nat.lt_succ_of_le inside

/-! ## Calls -/

/-- A call on a machine: a start, whatever comes of it, or a step that succeeds.
It is labelled with the key of the thread that is stepped, if there is one. -/
inductive Turn : Machine × Monitor → Option ThreadKey → Machine × Monitor → Prop
  | start (state : Machine × Monitor) (name : String) (location : Option Location)
      (memory : List Text) : Turn state none (leftBy (start name location memory state))
  | step {state after : Machine × Monitor} (stepped : step state = .ok () after) :
      Turn state (state.1.threads[state.1.cursor]?.map Thread.key) after

theorem Turn.ofStep {label : Option ThreadKey} (stepped : Machine.step state = .ok () after)
    (under : state.1.threads[state.1.cursor]?.map Thread.key = label) : Turn state label after :=
  under ▸ .step stepped

/-- Calls one after the other, with their labels. -/
inductive Run : Machine × Monitor → List (Option ThreadKey) → Machine × Monitor → Prop
  | refl (state : Machine × Monitor) : Run state [] state
  | tail {first middle last : Machine × Monitor} {log : List (Option ThreadKey)}
      {label : Option ThreadKey} (run : Run first log middle) (turn : Turn middle label last) :
      Run first (log ++ [label]) last

/-- What a call does to the queues. -/
inductive Change (machine next : Machine) : Option ThreadKey → Prop
  | pass (same : next.rota = machine.rota) (count : next.nextKey = machine.nextKey) :
      Change machine next none
  | join (thread : Thread) (numbered : thread.key = .number machine.nextKey)
      (grown : next.rota = machine.rota.join thread)
      (count : next.nextKey = machine.nextKey + 1) : Change machine next none
  | serve {head stepped : Thread} {rest : List Thread}
      (first : machine.rota.waiting = head :: rest) (same : stepped.key = head.key)
      (moved : next.rota = machine.rota.serve stepped) (count : next.nextKey = machine.nextKey) :
      Change machine next (some head.key)

/-- The first of those that are still to run stands under the cursor. -/
theorem head?_waiting (machine : Machine) :
    machine.rota.waiting.head? = machine.threads[machine.cursor]? :=
  List.head?_drop

theorem waiting_eq_cons {thread : Thread}
    (under : machine.threads[machine.cursor]? = some thread) :
    ∃ rest, machine.rota.waiting = thread :: rest := by
  rw [← head?_waiting] at under
  exact List.head?_eq_some_iff.mp under

/-- A step that succeeds serves the first of those that are still to run, and does
nothing when there is no thread at all. -/
theorem CursorStands.rota_of_step (stands : machine.CursorStands)
    (stepped : step (machine, monitor) = .ok () (next, told)) :
    machine.rota = ⟨[], []⟩ ∧ next = machine ∨
      ∃ head rest scene, machine.rota.waiting = head :: rest ∧
        Scene.step ⟨head, machine.program, monitor⟩ = .ok () scene ∧
        next = machine.afterStep scene.thread scene.program ∧
        next.rota = machine.rota.serve scene.thread ∧ next.CursorStands := by
  rcases step_eq_ok stepped with ⟨idle, same⟩ | ⟨thread, scene, under, sceneStepped, rfl⟩
  · left
    rcases stands with inside | ⟨empty, _⟩
    · exact absurd inside (Nat.not_lt.mpr (List.getElem?_eq_none_iff.mp idle))
    · exact ⟨by simp [rota, empty], same⟩
  · right
    obtain ⟨rest, first⟩ := waiting_eq_cons under
    obtain ⟨moved, standsThen⟩ := rota_afterStep scene.thread scene.program under
    exact ⟨thread, rest, scene, first, sceneStepped, rfl, moved, standsThen⟩

/-- Every call changes the queues in one of the three ways, and leaves the cursor
at a thread. -/
theorem Turn.change {label : Option ThreadKey} (turn : Turn state label after)
    (stands : state.1.CursorStands) :
    Change state.1 after.1 label ∧ after.1.CursorStands := by
  cases turn with
  | start name location memory =>
      cases location with
      | none => exact ⟨.pass rfl rfl, stands⟩
      | some place =>
          have joining := stands.rota_joined (state.1.newcomer name place memory)
          rcases start_cases state.1 state.2 name place memory with
            ⟨told, succeeded⟩ | ⟨failure, left, told, failed, rfl | rfl⟩
          · rw [succeeded]
            exact ⟨.join _ rfl joining.1 rfl, joining.2⟩
          · rw [failed]
            exact ⟨.pass rfl rfl, stands⟩
          · rw [failed]
            exact ⟨.join _ rfl joining.1 rfl, joining.2⟩
  | step stepped =>
      rw [← head?_waiting]
      rcases stands.rota_of_step stepped with
        ⟨empty, same⟩ | ⟨head, rest, scene, first, sceneStepped, next_eq, moved, standsThen⟩
      · rw [same, empty]
        exact ⟨.pass rfl rfl, stands⟩
      · rw [first]
        have count : after.1.nextKey = state.1.nextKey := by rw [next_eq]; rfl
        exact ⟨.serve first (Scene.key_of_step_eq_ok sceneStepped) moved count, standsThen⟩

namespace Change

variable {label : Option ThreadKey}

theorem nextKey_le (change : Change machine next label) : machine.nextKey ≤ next.nextKey := by
  cases change with
  | pass same count => exact Nat.le_of_eq count.symm
  | join thread numbered grown count => exact count ▸ Nat.le_succ _
  | serve first same moved count => exact Nat.le_of_eq count.symm

/-- A key that comes up was there before or has just been given out. -/
theorem mem_keys (change : Change machine next label) {key : ThreadKey}
    (member : key ∈ next.rota.keys) :
    key ∈ machine.rota.keys ∨
      key = .number machine.nextKey ∧ next.nextKey = machine.nextKey + 1 := by
  cases change with
  | pass same count => exact .inl (same ▸ member)
  | join thread numbered grown count =>
      rw [grown, Rota.keys_join, List.mem_append, List.mem_cons] at member
      rw [Rota.keys, List.map_append, List.mem_append]
      rcases member with waits | rfl | served
      · exact .inl (.inl waits)
      · exact .inr ⟨numbered, count⟩
      · exact .inl (.inr served)
  | serve first same moved count =>
      obtain ⟨others, keys_eq, keysNext⟩ := Rota.keys_serve first same
      rw [moved, keysNext, List.mem_append] at member
      rw [keys_eq, List.mem_cons]
      rcases member with other | last
      · exact .inl (.inr other)
      · split at last
        · exact .inl (.inl (List.mem_singleton.mp last))
        · cases last

end Change

/-- The cursor stands at a thread, threads are told apart by their keys, and
numbers that have not been given out are not in use. -/
structure Orderly (machine : Machine) : Prop where
  stands : machine.CursorStands
  distinct : machine.rota.keys.Nodup
  numbered : ∀ key ∈ machine.rota.keys, ∃ number : Nat,
    key = .number number ∧ number < machine.nextKey

theorem orderly_ofProgram (program : Program) : (ofProgram program).Orderly where
  stands := .inr ⟨rfl, rfl⟩
  distinct := List.nodup_nil
  numbered := fun _ member => absurd member List.not_mem_nil

namespace Orderly

theorem fresh (orderly : machine.Orderly) {number : Nat} (later : machine.nextKey ≤ number) :
    .number number ∉ machine.rota.keys := by
  intro member
  obtain ⟨other, same, given⟩ := orderly.numbered _ member
  cases same
  exact Nat.not_le.mpr given later

theorem distinct_of_change (orderly : machine.Orderly) {label : Option ThreadKey}
    (change : Change machine next label) : next.rota.keys.Nodup := by
  have distinct := orderly.distinct
  cases change with
  | pass same count =>
      rw [same]
      exact distinct
  | join thread numbered grown count =>
      have absent : thread.key ∉ machine.rota.keys := numbered ▸ orderly.fresh (Nat.le_refl _)
      rw [Rota.keys, List.map_append] at absent distinct
      rw [grown, Rota.keys_join]
      exact List.perm_middle.nodup_iff.mpr (List.nodup_cons.mpr ⟨absent, distinct⟩)
  | serve first same moved count =>
      obtain ⟨others, keys_eq, keysNext⟩ := Rota.keys_serve first same
      rw [keys_eq] at distinct
      rw [moved, keysNext]
      split
      · exact (List.perm_append_singleton _ _).nodup_iff.mpr distinct
      · rw [List.append_nil]
        exact (List.nodup_cons.mp distinct).2

theorem of_change (orderly : machine.Orderly) {label : Option ThreadKey}
    (change : Change machine next label) (stands : next.CursorStands) : next.Orderly := by
  refine ⟨stands, orderly.distinct_of_change change, ?_⟩
  intro key member
  rcases change.mem_keys member with earlier | ⟨key_eq, count⟩
  · obtain ⟨number, key_eq, given⟩ := orderly.numbered key earlier
    exact ⟨number, key_eq, Nat.lt_of_lt_of_le given change.nextKey_le⟩
  · exact ⟨machine.nextKey, key_eq, count ▸ Nat.lt_succ_self _⟩

theorem turn {label : Option ThreadKey} (orderly : state.1.Orderly)
    (turn : Turn state label after) : after.1.Orderly := by
  obtain ⟨change, stands⟩ := turn.change orderly.stands
  exact orderly.of_change change stands

theorem run {log : List (Option ThreadKey)} (orderly : state.1.Orderly)
    (run : Run state log after) : after.1.Orderly := by
  induction run with
  | refl => exact orderly
  | tail _ turn inductionHypothesis => exact inductionHypothesis.turn turn

end Orderly

namespace Run

variable {log : List (Option ThreadKey)}

theorem nextKey_le (run : Run state log after) (orderly : state.1.Orderly) :
    state.1.nextKey ≤ after.1.nextKey := by
  induction run with
  | refl => exact Nat.le_refl _
  | tail run turn inductionHypothesis =>
      obtain ⟨change, _⟩ := turn.change (orderly.run run).stands
      exact Nat.le_trans inductionHypothesis change.nextKey_le

/-- A key that comes up in a run was there before or is given out in it. -/
theorem mem_keys (run : Run state log after) (orderly : state.1.Orderly) {key : ThreadKey}
    (member : key ∈ after.1.rota.keys) :
    key ∈ state.1.rota.keys ∨ ∃ number : Nat, state.1.nextKey ≤ number ∧ key = .number number := by
  induction run with
  | refl => exact .inl member
  | tail run turn inductionHypothesis =>
      obtain ⟨change, _⟩ := turn.change (orderly.run run).stands
      rcases change.mem_keys member with earlier | ⟨key_eq, _⟩
      · exact inductionHypothesis earlier
      · exact .inr ⟨_, run.nextKey_le orderly, key_eq⟩

end Run

end Machine

end Palimpsest

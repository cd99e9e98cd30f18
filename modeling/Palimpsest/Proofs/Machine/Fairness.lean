import Palimpsest.Proofs.Machine.Rounds

/-!
# Fairness

Between two steps of a thread, all others come before it: those that are ahead of
it in the order of turns have not been stepped yet, and those behind it have been
stepped since, unless they have only just joined. At its next step nobody is
ahead of it any more, so every thread that was live all the time has had exactly
one turn, and no thread has had two.
-/

namespace Palimpsest.Machine

variable {machine next : Machine} {state after : Machine × Monitor} {key : ThreadKey}
  {old ahead behind : List ThreadKey} {log : List (Option ThreadKey)} {label : Option ThreadKey}

/-- A thread has not been stepped for as long as the log tells. Nobody ahead of it
has been stepped either, nobody else has been stepped twice, and those behind it
who were there before have been stepped. -/
structure Awaits (machine : Machine) (key : ThreadKey) (old : List ThreadKey)
    (log : List (Option ThreadKey)) (ahead behind : List ThreadKey) : Prop where
  order : machine.rota.keys = ahead ++ key :: behind
  notYet : ∀ other ∈ ahead, log.count (some other) = 0
  atMostOnce : ∀ other, other ≠ key → log.count (some other) ≤ 1
  once : ∀ other ∈ behind, other ∈ old → log.count (some other) = 1
  unborn : ∀ number : Nat, machine.nextKey ≤ number →
    log.count (some (.number number)) = 0 ∧ .number number ∉ old

theorem count_append_none (log : List (Option ThreadKey)) (other : ThreadKey) :
    (log ++ [none]).count (some other) = log.count (some other) := by
  simp [List.count_append]

theorem count_append_some (log : List (Option ThreadKey)) (stepped other : ThreadKey) :
    (log ++ [some stepped]).count (some other) =
      log.count (some other) + if stepped = other then 1 else 0 := by
  simp [List.count_append, List.count_singleton]

/-- A new key comes ahead of a thread that has run in this round, and behind one
that is still to run. -/
theorem keys_join_cases {rota : Rota} (thread : Thread)
    (order : rota.keys = ahead ++ key :: behind) :
    (∃ first second, ahead = first ++ second ∧
      (rota.join thread).keys = (first ++ thread.key :: second) ++ key :: behind) ∨
    ∃ first second, behind = first ++ second ∧
      (rota.join thread).keys = ahead ++ key :: (first ++ thread.key :: second) := by
  rw [Rota.keys, List.map_append] at order
  rw [Rota.keys_join]
  rcases List.append_eq_append_iff.mp order with
    ⟨between, ahead_eq, served_eq⟩ | ⟨between, waiting_eq, behind_eq⟩
  · left
    exact ⟨_, between, ahead_eq, by rw [served_eq]; simp⟩
  · rcases List.cons_eq_append_iff.mp behind_eq with
      ⟨rfl, served_eq⟩ | ⟨first, rfl, behind_eq⟩
    · left
      rw [List.append_nil] at waiting_eq
      exact ⟨ahead, [], by simp, by rw [waiting_eq, served_eq]; simp⟩
    · right
      exact ⟨first, _, ‹_›, by rw [waiting_eq]; simp⟩

namespace Awaits

theorem pass (awaits : machine.Awaits key old log ahead behind)
    (same : next.rota = machine.rota) (count : next.nextKey = machine.nextKey) :
    next.Awaits key old (log ++ [none]) ahead behind := by
  constructor
  · rw [same]
    exact awaits.order
  all_goals simp only [count_append_none, count]
  · exact awaits.notYet
  · exact awaits.atMostOnce
  · exact awaits.once
  · exact awaits.unborn

theorem join (awaits : machine.Awaits key old log ahead behind) {thread : Thread}
    (numbered : thread.key = .number machine.nextKey)
    (grown : next.rota = machine.rota.join thread)
    (count : next.nextKey = machine.nextKey + 1) :
    ∃ ahead behind, next.Awaits key old (log ++ [none]) ahead behind := by
  have ⟨unstepped, newer⟩ := awaits.unborn machine.nextKey (Nat.le_refl _)
  rw [← numbered] at unstepped newer
  have atMostOnce : ∀ other, other ≠ key → (log ++ [none]).count (some other) ≤ 1 := by
    simpa only [count_append_none] using awaits.atMostOnce
  have unborn : ∀ number : Nat, next.nextKey ≤ number →
      (log ++ [none]).count (some (ThreadKey.number number)) = 0 ∧
        ThreadKey.number number ∉ old := by
    intro number later
    rw [count_append_none]
    exact awaits.unborn number (by omega)
  rcases keys_join_cases thread awaits.order with
    ⟨first, second, rfl, order⟩ | ⟨first, second, rfl, order⟩
  · refine ⟨_, _, grown ▸ order, ?_, atMostOnce, ?_, unborn⟩
    · intro other member
      rw [count_append_none]
      rcases List.mem_append.mp member with earlier | later
      · exact awaits.notYet other (List.mem_append_left _ earlier)
      · rcases List.mem_cons.mp later with rfl | later
        · exact unstepped
        · exact awaits.notYet other (List.mem_append_right _ later)
    · simpa only [count_append_none] using awaits.once
  · refine ⟨_, _, grown ▸ order, ?_, atMostOnce, ?_, unborn⟩
    · simpa only [count_append_none] using awaits.notYet
    · intro other member present
      rw [count_append_none]
      rcases List.mem_append.mp member with earlier | later
      · exact awaits.once other (List.mem_append_left _ earlier) present
      · rcases List.mem_cons.mp later with rfl | later
        · exact absurd present newer
        · exact awaits.once other (List.mem_append_right _ later) present

/-- The first of those ahead has its turn and comes behind, or ends. -/
theorem serve (awaits : machine.Awaits key old log ahead behind) (orderly : machine.Orderly)
    {head stepped : Thread} {rest : List Thread}
    (first : machine.rota.waiting = head :: rest) (same : stepped.key = head.key)
    (moved : next.rota = machine.rota.serve stepped) (count : next.nextKey = machine.nextKey)
    (other : head.key ≠ key) :
    ∃ ahead behind, next.Awaits key old (log ++ [some head.key]) ahead behind := by
  obtain ⟨others, keys_eq, keysNext⟩ := Rota.keys_serve first same
  have order := awaits.order
  have distinct := orderly.distinct
  rw [keys_eq] at order distinct
  obtain ⟨absent, _⟩ := List.nodup_cons.mp distinct
  cases ahead with
  | nil => exact absurd (List.cons.inj order).1 other
  | cons leader followers =>
      obtain ⟨rfl, rfl⟩ := List.cons.inj order
      have elsewhere {candidate : ThreadKey} (member : candidate ∈ followers ++ key :: behind) :
          head.key ≠ candidate := by
        rintro rfl
        exact absent member
      have leaderNew : log.count (some head.key) = 0 := awaits.notYet _ List.mem_cons_self
      refine ⟨followers, behind ++ if stepped.isRunning then [head.key] else [], ?_, ?_, ?_, ?_, ?_⟩
      · rw [moved, keysNext]
        simp
      · intro candidate member
        rw [count_append_some, if_neg (elsewhere (List.mem_append_left _ member))]
        exact awaits.notYet candidate (List.mem_cons_of_mem _ member)
      · intro candidate apart
        rw [count_append_some]
        split
        · rename_i equal
          rw [← equal]
          exact Nat.le_of_eq (congrArg (· + 1) leaderNew)
        · exact awaits.atMostOnce candidate apart
      · intro candidate member present
        rw [count_append_some]
        rcases List.mem_append.mp member with earlier | last
        · rw [if_neg (elsewhere (List.mem_append_right _ (List.mem_cons_of_mem _ earlier)))]
          exact awaits.once candidate earlier present
        · split at last
          · rw [List.mem_singleton.mp last, leaderNew, if_pos rfl]
          · cases last
      · intro number later
        rw [count] at later
        have apart : head.key ≠ .number number := by
          intro equal
          apply orderly.fresh later
          rw [← equal, keys_eq]
          exact List.mem_cons_self
        rw [count_append_some, if_neg apart]
        exact awaits.unborn number later

theorem change (awaits : machine.Awaits key old log ahead behind) (orderly : machine.Orderly)
    (change : Change machine next label) (other : label ≠ some key) :
    ∃ ahead behind, next.Awaits key old (log ++ [label]) ahead behind := by
  cases change with
  | pass same count => exact ⟨ahead, behind, awaits.pass same count⟩
  | join thread numbered grown count => exact awaits.join numbered grown count
  | serve first same moved count =>
      apply awaits.serve orderly first same moved count
      intro equal
      exact other (congrArg some equal)

/-- A thread awaits its next turn until it is stepped again. -/
theorem run (awaits : state.1.Awaits key old [] ahead behind) (orderly : state.1.Orderly)
    (run : Run state log after) (unstepped : some key ∉ log) :
    ∃ ahead behind, after.1.Awaits key old log ahead behind := by
  induction run with
  | refl => exact ⟨ahead, behind, awaits⟩
  | tail run turn inductionHypothesis =>
      rw [List.mem_append, not_or] at unstepped
      obtain ⟨_, _, awaitsThen⟩ := inductionHypothesis unstepped.1
      have orderlyThen := orderly.run run
      obtain ⟨change, _⟩ := turn.change orderlyThen.stands
      apply awaitsThen.change orderlyThen change
      intro equal
      exact unstepped.2 (List.mem_singleton.mpr equal.symm)

end Awaits

/-- The key of a thread that is stepped comes first in the order of turns. -/
theorem Turn.keys_eq {key : ThreadKey} (turn : Turn state (some key) after)
    (stands : state.1.CursorStands) :
    ∃ others, state.1.rota.keys = key :: others ∧ after.1.nextKey = state.1.nextKey ∧
      (after.1.rota.keys = others ∨ after.1.rota.keys = others ++ [key]) := by
  obtain ⟨change, _⟩ := turn.change stands
  cases change with
  | serve first same moved count =>
      obtain ⟨others, keys_eq, keysNext⟩ := Rota.keys_serve first same
      refine ⟨others, keys_eq, count, ?_⟩
      rw [moved, keysNext]
      split
      · exact .inr rfl
      · exact .inl (List.append_nil _)

/-- A thread that is stepped twice has not ended in between, so it awaits its next
turn behind all others. -/
theorem awaits_of_steppedAgain {next later : Machine × Monitor}
    (orderly : state.1.Orderly) (turn : Turn state (some key) next) (run : Run next log later)
    (live : key ∈ later.1.rota.keys) :
    ∃ others, next.1.Awaits key state.1.rota.keys [] others [] := by
  obtain ⟨others, keys_eq, count, ended | stayed⟩ := turn.keys_eq orderly.stands
  · have distinct := orderly.distinct
    rw [keys_eq] at distinct
    have wasLive : key ∈ state.1.rota.keys := by
      rw [keys_eq]
      exact List.mem_cons_self
    rcases run.mem_keys (orderly.turn turn) live with present | ⟨number, unused, rfl⟩
    · rw [ended] at present
      exact absurd present (List.nodup_cons.mp distinct).1
    · rw [count] at unused
      exact absurd wasLive (orderly.fresh unused)
  · refine ⟨others, stayed, ?_, ?_, ?_, ?_⟩
    · intro other _
      exact List.count_nil
    · intro other _
      rw [List.count_nil]
      exact Nat.zero_le 1
    · intro other member
      cases member
    · intro number unused
      rw [count] at unused
      exact ⟨List.count_nil, orderly.fresh unused⟩

/-- Between two turns of a thread no other has two, and each one that is live all
the time has one. -/
theorem turns_between {next later last : Machine × Monitor} {other : ThreadKey}
    (orderly : state.1.Orderly) (turn : Turn state (some key) next) (run : Run next log later)
    (again : Turn later (some key) last) (unstepped : some key ∉ log) (apart : other ≠ key) :
    log.count (some other) ≤ 1 ∧
      (other ∈ state.1.rota.keys → other ∈ later.1.rota.keys → log.count (some other) = 1) := by
  have orderlyNext := orderly.turn turn
  have orderlyLater := orderlyNext.run run
  obtain ⟨followers, keysLater, _⟩ := again.keys_eq orderlyLater.stands
  have live : key ∈ later.1.rota.keys := by
    rw [keysLater]
    exact List.mem_cons_self
  obtain ⟨others, awaits⟩ := awaits_of_steppedAgain orderly turn run live
  obtain ⟨ahead, behind, awaitsLater⟩ := awaits.run orderlyNext run unstepped
  constructor
  · exact awaitsLater.atMostOnce other apart
  · intro before afterwards
    -- nobody is ahead of a thread whose turn it is
    have order := awaitsLater.order
    have distinct := orderlyLater.distinct
    rw [keysLater] at order distinct afterwards
    cases ahead with
    | nil =>
        obtain ⟨_, rfl⟩ := List.cons.inj order
        rcases List.mem_cons.mp afterwards with same | member
        · exact absurd same apart
        · exact awaitsLater.once other member before
    | cons leader between =>
        obtain ⟨rfl, rfl⟩ := List.cons.inj order
        exact absurd (List.mem_append_right _ List.mem_cons_self) (List.nodup_cons.mp distinct).1

/-! ## Rounds of every run -/

/-- The queues of a machine change with its calls as those of a scheduler with two
queues do. -/
structure TwoQueues (state : Machine × Monitor) : Prop where
  threads : state.1.rota.served ++ state.1.rota.waiting = state.1.threads
  startNowhere : ∀ name memory, start name none memory state = .ok false state
  start : ∀ name location memory isStarted after,
    start name (some location) memory state = .ok isStarted after →
      isStarted = true ∧
        after.1.rota = state.1.rota.join (state.1.newcomer name location memory)
  startFailing : ∀ name location memory failure after,
    Machine.start name (some location) memory state = .error failure after →
      after.1.rota = state.1.rota ∨
        after.1.rota = state.1.rota.join (state.1.newcomer name location memory)
  step : ∀ after, step state = .ok () after →
    state.1.rota = ⟨[], []⟩ ∧ after.1 = state.1 ∨
      ∃ head rest scene, state.1.rota.waiting = head :: rest ∧
        Scene.step ⟨head, state.1.program, state.2⟩ = .ok () scene ∧
        after.1.program = scene.program ∧ after.1.rota = state.1.rota.serve scene.thread

theorem CursorStands.twoQueues (stands : state.1.CursorStands) : TwoQueues state where
  threads := served_append_waiting state.1
  startNowhere := fun _ _ => rfl
  start := by
    intro name location memory isStarted after started
    rcases start_cases state.1 state.2 name location memory with
      ⟨told, succeeded⟩ | ⟨failure, left, told, failed, _⟩
    · rw [started] at succeeded
      cases succeeded
      exact ⟨rfl, (stands.rota_joined _).1⟩
    · rw [started] at failed
      cases failed
  startFailing := by
    intro name location memory failure after failing
    rcases start_cases state.1 state.2 name location memory with
      ⟨told, succeeded⟩ | ⟨_, left, told, failed, left_eq⟩
    · rw [failing] at succeeded
      cases succeeded
    · rw [failing] at failed
      cases failed
      rcases left_eq with rfl | rfl
      · exact .inl rfl
      · exact .inr (stands.rota_joined _).1
  step := by
    intro after stepped
    rcases stands.rota_of_step stepped with
      ⟨empty, same⟩ | ⟨head, rest, scene, first, sceneStepped, next_eq, moved, _⟩
    · exact .inl ⟨empty, same⟩
    · exact .inr ⟨head, rest, scene, first, sceneStepped, by rw [next_eq]; rfl, moved⟩

/-- A thread with the given key is live. -/
def IsLive (machine : Machine) (key : ThreadKey) : Prop :=
  ∃ thread ∈ machine.threads, thread.key = key

instance (machine : Machine) (key : ThreadKey) : Decidable (machine.IsLive key) :=
  inferInstanceAs (Decidable (∃ thread ∈ machine.threads, thread.key = key))

/-- After any calls the cursor of a machine stands at a thread, if there is one.
From there on its queues change as those of a scheduler with two queues do.
Between two steps of a thread every other one that is live all the time is stepped
exactly once, and no other one is stepped twice. -/
theorem every_run_is_round_robin {program : Program} {monitor : Monitor}
    (run : Run (ofProgram program, monitor) log state) :
    (ofProgram program).rota = ⟨[], []⟩ ∧
    (state.1.cursor < state.1.threads.length ∨ state.1.threads = [] ∧ state.1.cursor = 0) ∧
    TwoQueues state ∧
    (state.1.threads.map Thread.key).Nodup ∧
    ∀ key next between later last, Turn state (some key) next → Run next between later →
      Turn later (some key) last → some key ∉ between → ∀ other, other ≠ key →
        between.count (some other) ≤ 1 ∧
          (state.1.IsLive other → later.1.IsLive other → between.count (some other) = 1) := by
  have orderly : state.1.Orderly := (orderly_ofProgram program).run run
  refine ⟨rfl, orderly.stands, orderly.stands.twoQueues, ?_, ?_⟩
  · have distinct := orderly.distinct
    rw [Rota.keys, List.map_append] at distinct
    rw [← served_append_waiting state.1, List.map_append]
    exact List.perm_append_comm.nodup_iff.mp distinct
  · intro key next between later last turn running again unstepped other apart
    obtain ⟨atMostOnce, once⟩ := turns_between orderly turn running again unstepped apart
    refine ⟨atMostOnce, ?_⟩
    intro before afterwards
    exact once (mem_keys_rota_iff.mpr before) (mem_keys_rota_iff.mpr afterwards)

theorem every_run_is_round_robin_pair :
    let begun := (ofProgram (.load "a b c".toList false), (Scene.alone "" ⟨0, 0⟩ []).monitor)
    let state := leftBy (start "second" (some ⟨0, 2⟩) []
      (leftBy (start "first" (some ⟨0, 0⟩) [] begun)))
    let next := leftBy (step state)
    let later := leftBy (step next)
    Run begun [none, none] state ∧ TwoQueues state ∧
      ∃ between, Turn state (some (.number 0)) next ∧ Run next between later ∧
        Turn later (some (.number 0)) (leftBy (step later)) ∧
        between.count (some (.number 1)) = 1 := by
  intro begun state next later
  have run : Run begun [none, none] state :=
    .tail (.tail (.refl _) (.start _ _ _ _)) (.start _ _ _ _)
  have turn : Turn state (some (.number 0)) next :=
    .ofStep (by decide +kernel) (by decide +kernel)
  have between : Run next [some (.number 1)] later :=
    .tail (.refl _) (.ofStep (by decide +kernel) (by decide +kernel))
  have again : Turn later (some (.number 0)) (leftBy (step later)) :=
    .ofStep (by decide +kernel) (by decide +kernel)
  obtain ⟨_, _, queues, _, fair⟩ := every_run_is_round_robin run
  obtain ⟨_, once⟩ := fair _ _ _ _ _ turn between again (by decide) (.number 1) (by decide)
  exact ⟨run, queues, _, turn, between, again, once (by decide +kernel) (by decide +kernel)⟩

end Palimpsest.Machine

import Mathlib.Data.List.Forall2
import Mathlib.Data.List.Nodup
import Palimpsest.Proofs.Machine.Rounds
import Palimpsest.Proofs.Thread.Telling

/-!
# The table of live threads

A recorder keeps its table by keys and in the order in which keys have come up; a
machine keeps its threads in a list, where they join at the end and are taken out in
the middle. The two stay side by side: one entry for each thread, in the same order.
Keys tell threads apart, so a notice about one of them finds the entry that stands
beside it, and leaves the others where they are.
-/

namespace Palimpsest

namespace Thread

/-- The entry of a table shows a thread as it is: its name and its pointer, and, where
it is shown in full, its memory. -/
structure ShownBy (full : Prop) (entry : ThreadKey × ThreadState) (thread : Thread) : Prop where
  key : entry.1 = thread.key
  name : entry.2.name = thread.name
  pointer : thread.pointer = some entry.2.location
  memory : full → entry.2.memory = thread.memory

/-- The notice of a running thread shows it in full. -/
theorem notice_of_running {full : Prop} {thread : Thread} (running : thread.isRunning = true)
    (program : Program) :
    ∃ state, thread.notice program = .state thread.key state ∧
      thread.ShownBy full (thread.key, state) := by
  obtain ⟨location, pointed⟩ := Option.isSome_iff_exists.mp running
  refine ⟨thread.stateAt program location, ?_, ⟨rfl, rfl, pointed, fun _ => rfl⟩⟩
  rw [notice, pointed]

theorem notice_of_ended {thread : Thread} (ended : thread.isRunning = false)
    (program : Program) : thread.notice program = .ended thread.key thread.name := by
  have unpointed : thread.pointer = none := by simpa [isRunning] using ended
  rw [notice, unpointed]

end Thread

namespace Recorder

/-- A state is put behind all entries with other keys. -/
theorem put_append {key : ThreadKey} (state : ThreadState)
    {shown : List (ThreadKey × ThreadState)} (others : List (ThreadKey × ThreadState))
    (absent : key ∉ shown.map Prod.fst) :
    put key state (shown ++ others) = shown ++ put key state others := by
  induction shown with
  | nil => rfl
  | cons entry rest inductionHypothesis =>
      rw [List.map_cons, List.mem_cons, not_or] at absent
      rw [List.cons_append, put, if_neg fun same => absent.1 same.symm,
        inductionHypothesis absent.2, List.cons_append]

theorem filter_append {key : ThreadKey} {shown others : List (ThreadKey × ThreadState)}
    {entry : ThreadKey × ThreadState} (same : entry.1 = key)
    (absent : key ∉ shown.map Prod.fst) (absentThen : key ∉ others.map Prod.fst) :
    (shown ++ entry :: others).filter (fun entry => decide (entry.1 ≠ key)) = shown ++ others := by
  have kept : ∀ part : List (ThreadKey × ThreadState), key ∉ part.map Prod.fst →
      part.filter (fun entry => decide (entry.1 ≠ key)) = part := by
    intro part absent
    rw [List.filter_eq_self]
    intro other member
    rw [decide_eq_true_iff]
    rintro rfl
    exact absent (List.mem_map_of_mem member)
  rw [List.filter_append, List.filter_cons_of_neg (by simp [same]), kept shown absent,
    kept others absentThen]

end Recorder

/-- A table shows threads side by side. -/
abbrev ShowsAll (full : Prop) : List (ThreadKey × ThreadState) → List Thread → Prop :=
  List.Forall₂ (Thread.ShownBy full)

namespace ShowsAll

variable {full : Prop} {table : List (ThreadKey × ThreadState)} {threads served rest : List Thread}
  {thread stepped : Thread}

/-- What an entry shows of a thread, the table shows of all threads. -/
theorem map_eq {α : Type} {seen : ThreadKey × ThreadState → α} {actual : Thread → α}
    (same : ∀ {entry thread}, Thread.ShownBy full entry thread → seen entry = actual thread)
    (aligned : ShowsAll full table threads) : table.map seen = threads.map actual := by
  induction aligned with
  | nil => rfl
  | cons shown _ inductionHypothesis =>
      rw [List.map_cons, List.map_cons, same shown, inductionHypothesis]

theorem keys_eq (aligned : ShowsAll full table threads) :
    table.map Prod.fst = threads.map Thread.key :=
  aligned.map_eq fun shown => shown.key

/-- Beside one of the threads there is an entry, with the entries of the others on
both of its sides. -/
theorem exists_entry (aligned : ShowsAll full table (served ++ thread :: rest)) :
    ∃ shown entry others, table = shown ++ entry :: others ∧ ShowsAll full shown served ∧
      thread.ShownBy full entry ∧ ShowsAll full others rest := by
  induction served generalizing table with
  | nil =>
      obtain ⟨entry, others, shown, showsOthers, rfl⟩ := List.forall₂_cons_right_iff.mp aligned
      exact ⟨[], entry, others, rfl, .nil, shown, showsOthers⟩
  | cons first served inductionHypothesis =>
      obtain ⟨before, later, shown, showsLater, rfl⟩ := List.forall₂_cons_right_iff.mp aligned
      obtain ⟨part, entry, others, rfl, showsPart, shownThen, showsOthers⟩ :=
        inductionHypothesis showsLater
      exact ⟨before :: part, entry, others, rfl, .cons shown showsPart, shownThen, showsOthers⟩

/-- A notice about a thread with a new key adds an entry at the end. -/
theorem join {recorder : Recorder} (aligned : ShowsAll full recorder.table threads)
    (absent : thread.key ∉ threads.map Thread.key) (pointed : thread.isRunning = true)
    (program : Program) :
    ShowsAll full (recorder.tableAfter (thread.notice program)) (threads ++ [thread]) := by
  obtain ⟨state, notice_eq, shown⟩ := Thread.notice_of_running pointed program
  rw [← aligned.keys_eq] at absent
  have put_eq := Recorder.put_append state [] absent
  rw [List.append_nil] at put_eq
  rw [notice_eq, Recorder.tableAfter, put_eq]
  exact List.rel_append aligned (.cons shown .nil)

/-- A notice about one of the threads changes its entry only, and takes it out when the
thread has ended. -/
theorem serve {recorder : Recorder}
    (aligned : ShowsAll full recorder.table (served ++ thread :: rest))
    (distinct : ((served ++ thread :: rest).map Thread.key).Nodup)
    (same : stepped.key = thread.key) (program : Program) :
    ShowsAll full (recorder.tableAfter (stepped.notice program))
      (served ++ (if stepped.isRunning then [stepped] else []) ++ rest) := by
  obtain ⟨shown, entry, others, table_eq, showsServed, shownThread, showsRest⟩ :=
    aligned.exists_entry
  have key_eq : entry.1 = stepped.key := shownThread.key.trans same.symm
  rw [List.map_append, List.map_cons, ← same, ← showsServed.keys_eq, ← showsRest.keys_eq,
    List.nodup_middle, List.nodup_cons, List.mem_append, not_or] at distinct
  rcases distinct with ⟨⟨absent, absentThen⟩, _⟩
  cases running : stepped.isRunning with
  | true =>
      obtain ⟨state, notice_eq, shownThen⟩ := Thread.notice_of_running running program
      rw [notice_eq, Recorder.tableAfter, table_eq, Recorder.put_append state _ absent,
        Recorder.put, if_pos key_eq, if_pos rfl, List.append_assoc]
      exact List.rel_append showsServed (.cons shownThen showsRest)
  | false =>
      rw [Thread.notice_of_ended running, Recorder.tableAfter, table_eq,
        Recorder.filter_append key_eq absent absentThen]
      simpa using List.rel_append showsServed showsRest

/-- Where memory is not shown, it does not matter. -/
theorem forget (aligned : ShowsAll full table (served ++ thread :: rest)) (unseen : ¬full)
    (memory : List Text) :
    ShowsAll full table (served ++ { thread with memory := memory } :: rest) := by
  obtain ⟨shown, entry, others, rfl, showsServed, shownThread, showsRest⟩ :=
    aligned.exists_entry
  have shownThen : ({ thread with memory := memory } : Thread).ShownBy full entry :=
    ⟨shownThread.key, shownThread.name, shownThread.pointer, fun seen => absurd seen unseen⟩
  exact List.rel_append showsServed (.cons shownThen showsRest)

end ShowsAll

end Palimpsest

import Palimpsest.Proofs.Grid.WordList
import Palimpsest.Proofs.Session.Budget
import Palimpsest.Proofs.Thread.Effect

/-!
# Straight-line programs

A program none of whose words jumps or edits is carried out word by word, in reading
order from the entry point on. The thread that starts there is alone. Each of its steps
leaves the grid as it is and takes it from a word to the next one or to its end, so what
is ahead of it is always the rest of the list of words. It comes to the end of the list,
halts, or fails on the way, and needs no more steps than there are words.
-/

namespace Palimpsest

/-! ## Words that neither jump nor edit -/

/-- The operations that jump or edit. -/
def Opcode.turns : List Opcode :=
  [.branch, .jump, .jumpIndirect, .save, .appendWord, .addLine, .deleteWord, .deleteLetter, .paste]

theorem Opcode.edits_of_notMem_turns {opcode : Opcode} (straight : opcode ∉ turns) :
    opcode.edits = false := by
  cases opcode with
  | save | appendWord | addLine | deleteWord | deleteLetter | paste =>
      exact absurd (by decide) straight
  | _ => rfl

namespace Word

/-- The word picks no operation that jumps or edits; it may pick none at all. -/
def KeepsLine (word : Word) : Prop :=
  ∀ instruction ∈ Instruction.decode? word.text, instruction.opcode ∉ Opcode.turns

instance (word : Word) : Decidable word.KeepsLine :=
  inferInstanceAs (Decidable (∀ instruction ∈ Instruction.decode? word.text, _))

/-- The word ends its thread. -/
def Halts (word : Word) : Prop :=
  ∃ operand, Instruction.decode? word.text = some ⟨.halt, operand⟩

theorem KeepsLine.reads {word : Word} (straight : word.KeepsLine) (instruction : Instruction)
    (decoded : Instruction.decode? word.text = some instruction) :
    instruction.opcode.edits = false :=
  Opcode.edits_of_notMem_turns (straight instruction decoded)

end Word

namespace Frame

/-- Whenever the action succeeds, the thread goes on behind its word. -/
def GoesOn (action : Action Flow) : Prop :=
  ∀ frame flow after, action frame = .ok flow after → flow = .advance

namespace GoesOn

theorem pure : GoesOn (pure .advance) := by
  intro frame flow after executed
  cases executed
  rfl

/-- Only the last action of a sequence says how the thread goes on. -/
theorem bind {α : Type} {first : Action α} {next : α → Action Flow}
    (advances : ∀ value, GoesOn (next value)) : GoesOn (first >>= next) := by
  intro frame flow after executed
  rcases bind_eq_ok_iff.mp executed with ⟨value, middle, _, executed⟩
  exact advances value middle flow after executed

theorem advancing {action : Action Unit} : GoesOn (do action; return Flow.advance) :=
  bind fun _ => pure

/-- Operations that neither jump nor edit nor halt let the thread go on behind its word. -/
theorem execute {instruction : Instruction} (straight : instruction.opcode ∉ Opcode.turns)
    (goes : instruction.opcode ≠ .halt) : GoesOn (execute instruction) := by
  rcases instruction with ⟨opcode, operand⟩
  cases opcode with
  | load =>
      apply bind
      intro grid
      cases grid.findLead operand with
      | none => exact pure
      | some location => exact advancing
  | math =>
      change GoesOn (Frame.math operand)
      unfold Frame.math
      split
      · exact pure
      · split
        · exact pure
        · exact advancing
  | find =>
      apply bind
      intro grid
      cases grid.findLead operand with
      | none => exact pure
      | some location => exact advancing
  | move =>
      apply bind
      intro location
      cases Direction.ofText? operand with
      | none => exact pure
      | some direction => exact advancing
  | drop => exact bind fun _ => pure
  | swap => exact bind fun _ => bind fun _ => bind fun _ => advancing
  | duplicate => exact bind fun _ => bind fun _ => advancing
  | readLetter => exact bind fun _ => bind fun _ => bind fun _ => advancing
  | halt => exact absurd rfl goes
  | _ => exact absurd (by simp [Opcode.turns]) straight

end GoesOn

/-- A word that neither jumps nor edits goes on to the next word of the same grid, or
halts. -/
theorem target_of_keepsLine {word : Word} (straight : word.KeepsLine) {frame after : Frame}
    {target : Option Location} (performed : perform word frame = .ok target after) :
    target = frame.program.grid.nextWord (frame.pointer.right word.length) ∨
      target = none ∧ word.Halts := by
  rcases bind_eq_ok_iff.mp performed with ⟨flow, middle, executed, continued⟩
  obtain ⟨memory, left_eq⟩ := MemoryOnly.executeWord straight.reads frame
  rw [executed] at left_eq
  have behind (advances : flow = .advance) :
      target = frame.program.grid.nextWord (frame.pointer.right word.length) := by
    subst advances
    cases continued
    rw [show after = _ from left_eq]
  cases decoded : Instruction.decode? word.text with
  | none =>
      simp only [executeWord, decoded] at executed
      cases executed
      exact .inl (behind rfl)
  | some instruction =>
      rw [executeWord, decoded] at executed
      rcases instruction with ⟨opcode, operand⟩
      by_cases halts : opcode = .halt
      · subst halts
        cases executed
        cases continued
        exact .inr ⟨rfl, operand, decoded⟩
      · exact .inl (behind
          (GoesOn.execute (straight ⟨opcode, operand⟩ decoded) halts frame flow middle executed))

end Frame

/-- A step over a word that neither jumps nor edits leaves the program as it is, and the
thread at the next word or ended. -/
theorem Scene.goesOn_of_step_eq_ok {scene next : Scene} {location : Location}
    (running : scene.thread.pointer = some location)
    (straight : (scene.program.grid.readWord location).KeepsLine)
    (stepped : step scene = .ok () next) :
    next.program = scene.program ∧
      (next.thread.pointer = scene.program.grid.nextWord
          (location.right (scene.program.grid.readWord location).length) ∨
        next.thread.pointer = none ∧ (scene.program.grid.readWord location).Halts) := by
  refine ⟨program_of_step_eq_ok running straight.reads stepped, ?_⟩
  obtain ⟨target, frame, performed, thread_eq, _⟩ := step_eq_ok running stepped
  rw [thread_eq]
  exact Frame.target_of_keepsLine straight performed

/-! ## Words ahead of a machine -/

/-- The words of a program from its entry point on, in reading order. -/
def Program.wordsAhead (program : Program) : List (Location × Word) :=
  match program.entry with
  | none => []
  | some entry => program.grid.wordList.filter fun pair => decide (entry.Leads pair.1)

/-- No two of the words stand at the same place. -/
theorem Program.nodup_wordsAhead (program : Program) :
    (program.wordsAhead.map Prod.fst).Nodup := by
  have forward : program.wordsAhead.Pairwise Grid.Earlier := by
    unfold wordsAhead
    split
    · exact .nil
    · exact program.grid.pairwise_wordList.filter _
  apply forward.map Prod.fst
  intro pair later earlier same
  have before : pair.1.Before later.1 := earlier
  rw [same] at before
  exact later.1.not_before_self before

/-- The words from the entry point on are what a walk from there visits. -/
theorem Program.visits_wordsAhead {program : Program}
    (starts : ∀ entry, program.entry = some entry → program.grid.StartsWord entry) :
    program.grid.Visits program.entry program.wordsAhead := by
  have visits : program.grid.Visits program.entry (program.grid.wordsFrom program.entry) :=
    Grid.visits_wordsFrom fun entry entered => (starts entry entered).1
  have forward : (program.grid.wordsFrom program.entry).Pairwise Grid.Earlier :=
    visits.pairwise_before starts
  unfold wordsAhead
  cases entered : program.entry with
  | none => exact .stop
  | some entry =>
      rw [entered] at visits forward
      have list_eq : program.grid.wordsFrom (some entry) =
          program.grid.wordList.filter fun pair => decide (entry.Leads pair.1) := by
        refine forward.eq_of_mem_iff (program.grid.pairwise_wordList.filter _) ?_
        rintro ⟨location, word⟩
        rw [visits.mem_iff (entered ▸ starts), List.mem_filter, Grid.mem_wordList_iff,
          decide_eq_true_eq]
        simp [and_comm]
      rwa [list_eq] at visits

namespace Machine

/-- The word that the next step carries out, with its place. -/
def nextWord? (machine : Machine) : Option (Location × Word) :=
  machine.threads[machine.cursor]?.bind fun thread =>
    thread.pointer.map fun location => (location, machine.program.grid.readWord location)

/-- The only thread of a machine stands before the given words of a grid. -/
structure Faces (machine : Machine) (grid : Grid) (words : List (Location × Word)) : Prop where
  kept : machine.program.grid = grid
  first : machine.cursor = 0
  alone : ∃ thread location, machine.threads = [thread] ∧ thread.pointer = some location ∧
    grid.Visits (some location) words

/-- Where a machine is after it has carried out some words with others ahead: its only
thread stands before these, or it has ended as there are none or as the last word that
has been carried out halts. -/
inductive After (grid : Grid) (executed ahead : List (Location × Word)) (machine : Machine) : Prop
  | live (faces : machine.Faces grid ahead)
  | ended (kept : machine.program.grid = grid) (idle : machine.threads = [])
      (cause : ahead = [] ∨ ∃ pair, executed.getLast? = some pair ∧ pair.2.Halts)

variable {machine next : Machine} {monitor told : Monitor} {grid : Grid}
  {words executed ahead : List (Location × Word)}

theorem After.kept (after : After grid executed ahead machine) : machine.program.grid = grid := by
  cases after with
  | live faces => exact faces.kept
  | ended kept _ _ => exact kept

theorem After.faces_of_isRunning (after : After grid executed ahead machine)
    (running : machine.isRunning = true) : machine.Faces grid ahead := by
  cases after with
  | live faces => exact faces
  | ended kept idle cause => simp [isRunning, idle] at running

/-- After a step of its only thread a machine has that thread, or none when it has ended. -/
theorem afterStep_of_alone {thread : Thread} (first : machine.cursor = 0)
    (alone : machine.threads = [thread]) (moved : Thread) (program : Program) :
    (machine.afterStep moved program).cursor = 0 ∧
      (machine.afterStep moved program).threads = if moved.isRunning then [moved] else [] := by
  cases running : moved.isRunning with
  | false => simp [afterStep, running, alone, first, wrap]
  | true => simp [afterStep, running, alone, first, wrap]

namespace Faces

theorem isRunning (faces : machine.Faces grid words) : machine.isRunning = true := by
  obtain ⟨thread, location, alone, _⟩ := faces.alone
  simp [Machine.isRunning, alone]

/-- The first of the words is the next to be carried out. -/
theorem exists_cons (faces : machine.Faces grid words) :
    ∃ thread location rest, machine.threads[machine.cursor]? = some thread ∧
      thread.pointer = some location ∧
      words = (location, machine.program.grid.readWord location) :: rest ∧
      machine.nextWord? = some (location, machine.program.grid.readWord location) ∧
      grid.Visits (grid.nextWord (location.right (grid.readWord location).length)) rest := by
  rcases faces with ⟨rfl, first, thread, location, alone, pointed, visits⟩
  cases visits with
  | @visit _ rest onward =>
      have under : machine.threads[machine.cursor]? = some thread := by
        rw [alone, first]
        rfl
      refine ⟨thread, location, rest, under, pointed, rfl, ?_, onward⟩
      rw [nextWord?, under, Option.bind_some, pointed, Option.map_some]

/-- A step that succeeds has carried out the first of the words, and the rest is ahead. -/
theorem after_of_step_eq_ok (faces : machine.Faces grid words)
    (straight : ∀ pair ∈ words, pair.2.KeepsLine)
    (stepped : step (machine, monitor) = .ok () (next, told)) :
    ∃ pair rest, words = pair :: rest ∧ machine.nextWord? = some pair ∧
      ∀ executed, After grid (executed ++ [pair]) rest next := by
  obtain ⟨thread, location, rest, under, pointed, rfl, coming, onward⟩ := faces.exists_cons
  refine ⟨_, rest, rfl, coming, fun executed => ?_⟩
  rcases faces with ⟨rfl, first, _, _, alone, _, _⟩
  rcases step_eq_ok stepped with ⟨nobody, _⟩ | ⟨other, scene, otherUnder, sceneStepped, rfl⟩
  · rw [under] at nobody
    cases nobody
  · cases under.symm.trans otherUnder
    have keepsLine := straight (location, machine.program.grid.readWord location)
      List.mem_cons_self
    have running : (⟨thread, machine.program, monitor⟩ : Scene).thread.pointer = some location :=
      pointed
    have ⟨program_eq, pointerCases⟩ :=
      Scene.goesOn_of_step_eq_ok running keepsLine sceneStepped
    have kept : (machine.afterStep scene.thread scene.program).program.grid =
        machine.program.grid := congrArg Program.grid program_eq
    have ⟨cursor_eq, threads_eq⟩ := afterStep_of_alone first alone scene.thread scene.program
    rw [Thread.isRunning] at threads_eq
    -- Whether the thread has ended is seen from its pointer, and so is what lies ahead.
    cases pointer_eq : scene.thread.pointer with
    | none =>
        rw [pointer_eq] at threads_eq pointerCases
        refine .ended kept threads_eq ?_
        rcases pointerCases with ended | ⟨_, halts⟩
        · rw [← ended] at onward
          cases onward
          exact .inl rfl
        · exact .inr ⟨_, List.getLast?_concat, halts⟩
    | some reached =>
        rw [pointer_eq] at threads_eq pointerCases
        rcases pointerCases with goes | ⟨ended, _⟩
        · rw [← goes] at onward
          exact .live ⟨kept, cursor_eq, scene.thread, reached, threads_eq, pointer_eq, onward⟩
        · cases ended

/-- No step changes the grid, be it a success or a failure. -/
theorem grid_leftBy_step (faces : machine.Faces grid words)
    (straight : ∀ pair ∈ words, pair.2.KeepsLine) :
    (leftBy (step (machine, monitor))).1.program.grid = grid := by
  obtain ⟨thread, location, rest, under, pointed, rfl, _⟩ := faces.exists_cons
  have keepsLine := straight (location, machine.program.grid.readWord location)
    List.mem_cons_self
  have running : (⟨thread, machine.program, monitor⟩ : Scene).thread.pointer = some location :=
    pointed
  rw [program_leftBy_step under, Scene.program_leftBy_step_of_reads running keepsLine.reads]
  exact faces.kept

end Faces

end Machine

namespace Session

/-! ## Words that steps carry out -/

/-- Steps that carry out the given words at their places, one after the other. -/
inductive Executes : Session → List (Location × Word) → Session → Prop
  | refl (session : Session) : Executes session [] session
  | head {session next last : Session} {pair : Location × Word} {later : List (Location × Word)}
      (coming : session.machine.bind Machine.nextWord? = some pair)
      (stepped : step session = .ok true next) (rest : Executes next later last) :
      Executes session (pair :: later) last

variable {session ready last : Session} {machine : Machine} {grid : Grid} {count budget : Nat}
  {words executed ahead : List (Location × Word)}

/-- Every word that is carried out is counted. -/
theorem Executes.stepCount_eq (executes : Executes session words last)
    (started : session.machine = some machine) :
    ∃ lastMachine, last.machine = some lastMachine ∧
      lastMachine.stepCount = machine.stepCount + words.length := by
  induction executes generalizing machine with
  | refl session => exact ⟨machine, started, rfl⟩
  | @head session next last pair later coming stepped rest inductionHypothesis =>
      have outcome := stepOutcome (ensureMachine_of_started started)
      rw [stepped] at outcome
      cases outcome with
      | executed calm running machineStepped =>
          rcases Machine.step_eq_ok machineStepped with ⟨nobody, _⟩ | ⟨_, scene, _, _, rfl⟩
          · simp [started, Machine.nextWord?, nobody] at coming
          · obtain ⟨lastMachine, lastStarted, count_eq⟩ := inductionHypothesis rfl
            have counted : (machine.afterStep scene.thread scene.program).stepCount =
                machine.stepCount + 1 := rfl
            refine ⟨lastMachine, lastStarted, ?_⟩
            rw [count_eq, counted, List.length_cons]
            omega

/-- On a straight line every step takes one word from the beginning of what is ahead. -/
theorem Steps.executes (steps : Steps count session last)
    (started : session.machine = some machine) (after : machine.After grid executed ahead)
    (straight : ∀ pair ∈ ahead, pair.2.KeepsLine) :
    ∃ lastMachine more rest, last.machine = some lastMachine ∧ ahead = more ++ rest ∧
      more.length = count ∧ Executes session more last ∧
      lastMachine.After grid (executed ++ more) rest := by
  induction steps generalizing machine executed ahead with
  | refl session =>
      exact ⟨machine, [], ahead, started, rfl, rfl, .refl session, by simpa using after⟩
  | @head count session next last live stepped rest inductionHypothesis =>
      have outcome := stepOutcome (ensureMachine_of_started started)
      rw [stepped] at outcome
      cases outcome with
      | executed calm running machineStepped =>
          obtain ⟨pair, others, rfl, coming, afterThen⟩ :=
            (after.faces_of_isRunning running).after_of_step_eq_ok straight machineStepped
          obtain ⟨lastMachine, more, left, lastStarted, rfl, length_eq, executes, lastAfter⟩ :=
            inductionHypothesis rfl (afterThen executed)
              fun other member => straight other (List.mem_cons_of_mem pair member)
          refine ⟨lastMachine, pair :: more, left, lastStarted, rfl, ?_, ?_, ?_⟩
          · rw [List.length_cons, length_eq]
          · exact .head (by rw [started, Option.bind_some, coming]) stepped executes
          · rwa [List.append_assoc] at lastAfter

/-- A session that is still live after some steps is about to carry out another word, and
whatever becomes of that, the grid stays as it is. -/
theorem Steps.exists_coming (steps : Steps count session last)
    (started : session.machine = some machine) (calm : session.status ≠ some .error)
    (after : machine.After grid [] words) (straight : ∀ pair ∈ words, pair.2.KeepsLine)
    (live : last.hasThreads = true) :
    ∃ executed pair rest, words = executed ++ pair :: rest ∧ executed.length = count ∧
      Executes session executed last ∧ last.machine.bind Machine.nextWord? = some pair ∧
      last.grid = grid ∧ (leftBy (step last)).grid = grid := by
  obtain ⟨lastMachine, executed, ahead, lastStarted, rfl, length_eq, executes, lastAfter⟩ :=
    steps.executes started after straight
  obtain ⟨_, running, isRunning⟩ := hasThreads_iff.mp live
  cases lastStarted.symm.trans running
  have faces := lastAfter.faces_of_isRunning isRunning
  have straightAhead : ∀ pair ∈ ahead, pair.2.KeepsLine :=
    fun pair member => straight pair (List.mem_append_right executed member)
  have left : (leftBy (step last)).grid = grid := by
    rw [grid_leftBy_step_of_running (ensureMachine_of_started lastStarted) (steps.calm calm)
      isRunning, faces.grid_leftBy_step straightAhead]
  have unchanged : last.grid = grid := by
    rw [Session.grid, currentProgram, lastStarted, Option.getD_some, faces.kept]
  obtain ⟨_, _, rest, _, _, rfl, coming, _⟩ := faces.exists_cons
  exact ⟨executed, _, rest, rfl, length_eq, executes, by rw [lastStarted, Option.bind_some, coming],
    unchanged, left⟩

/-- A session that is no longer live after some steps has come to the end of the words,
or the last of those that it has carried out halts. -/
theorem Steps.exists_cause (steps : Steps count session last)
    (started : session.machine = some machine) (after : machine.After grid [] words)
    (straight : ∀ pair ∈ words, pair.2.KeepsLine) (idle : last.hasThreads = false) :
    ∃ executed rest, words = executed ++ rest ∧ executed.length = count ∧
      Executes session executed last ∧
      (rest = [] ∨ ∃ pair, executed.getLast? = some pair ∧ pair.2.Halts) ∧ last.grid = grid := by
  obtain ⟨lastMachine, executed, rest, lastStarted, rfl, length_eq, executes, lastAfter⟩ :=
    steps.executes started after straight
  have unchanged : last.grid = grid := by
    rw [Session.grid, currentProgram, lastStarted, Option.getD_some, lastAfter.kept]
  refine ⟨executed, rest, rfl, length_eq, executes, ?_, unchanged⟩
  cases lastAfter with
  | live faces => simp [hasThreads, lastStarted, faces.isRunning] at idle
  | ended kept idle cause => exact cause

/-! ## Runs over a list of words -/

/-- How a run ends that carries out the given words from the beginning on, each of them
once. In the end the view of the session that the words lead to is brought up to date. -/
inductive RunsOver (words : List (Location × Word)) (ready : Session) (budget : Nat) :
    EStateM.Result Failure Session Status → Prop
  /-- No word is left, or the last one that has been carried out halts. -/
  | ended {executed rest : List (Location × Word)} {idle : Session} {status : Status}
      (words_eq : words = executed ++ rest) (within : executed.length ≤ budget)
      (executes : Executes ready executed idle) (ended : idle.hasThreads = false)
      (cause : rest = [] ∨ ∃ pair, executed.getLast? = some pair ∧ pair.2.Halts)
      (settles : idle.machine.map restingStatus = some status)
      (rests : status = .halted ∨ status = .waiting) :
      RunsOver words ready budget (.ok status
        (leftBy (syncView { idle with status := some status })))
  /-- The next word meets a fault. -/
  | faulted {executed rest : List (Location × Word)} {pair : Location × Word}
      {before frozen : Session} (words_eq : words = executed ++ pair :: rest)
      (within : executed.length < budget) (executes : Executes ready executed before)
      (coming : before.machine.bind Machine.nextWord? = some pair)
      (stepped : step before = .ok false frozen) (harmed : frozen.status = some .error) :
      RunsOver words ready budget (.ok .error (leftBy (syncView frozen)))
  /-- The next word fails otherwise. -/
  | failed {executed rest : List (Location × Word)} {pair : Location × Word}
      {before left : Session} {failure : Failure} (words_eq : words = executed ++ pair :: rest)
      (within : executed.length < budget) (executes : Executes ready executed before)
      (coming : before.machine.bind Machine.nextWord? = some pair)
      (failed : step before = .error failure left) :
      RunsOver words ready budget (.error failure left)
  /-- The budget is used up before the next word. -/
  | timedOut {executed rest : List (Location × Word)} {pair : Location × Word}
      {before : Session} (words_eq : words = executed ++ pair :: rest)
      (spent : executed.length = budget) (executes : Executes ready executed before)
      (coming : before.machine.bind Machine.nextWord? = some pair) :
      RunsOver words ready budget (.ok .timeout (leftBy (syncView
        (remarked { before with status := some .timeout } .warning "timeout"
          ("stopped after " ++ toString budget ++ " steps")))))

/-- A run with a step for every word does not time out. -/
theorem RunsOver.ne_timeout {result : EStateM.Result Failure Session Status}
    (runs : RunsOver words ready budget result) (enough : words.length ≤ budget)
    (last : Session) : result ≠ .ok .timeout last := by
  rintro rfl
  cases runs with
  | ended words_eq within executes ended cause settles rests =>
      rcases rests with halted | waiting
      · cases halted
      · cases waiting
  | timedOut words_eq spent executes coming =>
      rw [words_eq, List.length_append, List.length_cons] at enough
      omega

/-- A session whose only thread stands before words that neither jump nor edit runs over
them, and its grid stays as it is. -/
theorem runsOver_run (started : ready.machine = some machine) (calm : ready.status ≠ some .error)
    (after : machine.After grid [] words) (straight : ∀ pair ∈ words, pair.2.KeepsLine)
    (limit : Option Int) :
    RunsOver words { ready with status := none } (limit.getD ready.options.maxSteps).toNat
        (run limit ready) ∧
      (leftBy (run limit ready)).grid = grid := by
  have ended := runEnd (ensureMachine_of_started started) calm limit
  generalize run limit ready = result at ended ⊢
  cases ended with
  | @settled count last lastMachine within steps lastStarted idle =>
      have rested : last.hasThreads = false := by simp [hasThreads, lastStarted, idle]
      obtain ⟨executed, rest, words_eq, rfl, executes, cause, unchanged⟩ :=
        steps.exists_cause started after straight rested
      have settles : last.machine.map restingStatus = some (restingStatus lastMachine) := by
        rw [lastStarted, Option.map_some]
      exact ⟨.ended words_eq within executes rested cause settles
        (restingStatus_cases lastMachine), (keepsGrid_syncView _).trans unchanged⟩
  | @frozen count before last lastMachine within steps live stepped lastStarted harmed =>
      obtain ⟨executed, pair, rest, words_eq, rfl, executes, coming, _, left⟩ :=
        steps.exists_coming started (by simp) after straight live
      rw [stepped] at left
      exact ⟨.faulted words_eq within executes coming stepped harmed,
        (keepsGrid_syncView _).trans left⟩
  | @timedOut last lastMachine steps lastStarted running =>
      obtain ⟨executed, pair, rest, words_eq, spent, executes, coming, unchanged, _⟩ :=
        steps.exists_coming started (by simp) after straight
          (hasThreads_iff.mpr ⟨lastMachine, lastStarted, running⟩)
      exact ⟨.timedOut words_eq spent executes coming, (keepsGrid_syncView _).trans unchanged⟩
  | @failed count before left failure within steps live failed =>
      obtain ⟨executed, pair, rest, words_eq, rfl, executes, coming, _, left⟩ :=
        steps.exists_coming started (by simp) after straight live
      rw [failed] at left
      exact ⟨.failed words_eq within executes coming failed, left⟩

/-! ## From the start -/

/-- A start that succeeds with an entry point has had the main thread join. -/
theorem exists_joined_of_start_eq_ok {entry : Location}
    (entered : session.freshMachine.program.entry = some entry)
    (begun : start session = .ok () ready) :
    ∃ monitor, ready = { session.opened with
      machine := some { session.freshMachine with
        threads := [⟨Machine.mainName, .number 0, some entry, []⟩]
        nextKey := 1 }
      monitor := monitor
      status := none } := by
  cases joined : Machine.startThread Machine.mainName entry []
      (session.freshMachine, session.opened.monitor) with
  | ok value state =>
      cases begun.symm.trans (start_of_entry entered joined)
      exact ⟨state.2, by rw [(Machine.startThread_eq_ok joined).1]; rfl⟩
  | error failure state =>
      have failed : Machine.startMain (session.freshMachine, session.opened.monitor) =
          .error failure state := by
        change Machine.start Machine.mainName session.freshMachine.program.entry [] _ = _
        rw [entered]
        exact bind_of_error joined
      rw [start_eq, bind_of_ok (remarkEntry_eq session)] at begun
      rcases bind_eq_ok_iff.mp begun with ⟨_, _, mained, _⟩
      simp only [onMachine, failed] at mained
      cases mained

/-- A start leaves the main thread, which is alone, before the words from the entry point
on. -/
theorem after_of_start_eq_ok (begun : start session = .ok () ready) :
    ready.status ≠ some .error ∧ ∃ machine, ready.machine = some machine ∧
      machine.After session.freshMachine.program.grid []
        session.freshMachine.program.wordsAhead := by
  have visits := Program.visits_wordsAhead fun entry (entered :
      session.freshMachine.program.entry = some entry) =>
    (Grid.opensRow_of_entry_eq_some entered).startsWord
  generalize session.freshMachine.program.wordsAhead = words at visits ⊢
  cases entered : session.freshMachine.program.entry with
  | none =>
      rw [entered] at visits
      cases visits
      cases begun.symm.trans (start_of_no_entry entered)
      exact ⟨calm_restingStatus _, session.freshMachine, session.opened_machine,
        .ended rfl rfl (.inl rfl)⟩
  | some entry =>
      rw [entered] at visits
      obtain ⟨monitor, rfl⟩ := exists_joined_of_start_eq_ok entered begun
      exact ⟨by simp, _, rfl, .live ⟨rfl, rfl, _, entry, rfl, rfl, visits⟩⟩

/-- A session that has not been started is started by its run. -/
theorem run_of_unstarted (unstarted : session.machine = none) (limit : Option Int) :
    run limit session = (do start; run limit : Action Status) session := by
  have ensure_eq := ensureMachine_of_unstarted unstarted
  cases begun : start session with
  | error failure left =>
      rw [bind_of_error begun] at ensure_eq ⊢
      exact bind_of_error ensure_eq
  | ok value ready =>
      obtain ⟨machine, started⟩ := Option.isSome_iff_exists.mp
        (isSome_machine_leftBy_start session)
      rw [begun] at started
      have started : ready.machine = some machine := started
      have ensured : ensureMachine session = .ok machine ready := by
        rw [ensure_eq, bind_of_ok begun, get_bind_apply, started]
        rfl
      rw [bind_of_ok begun, run_of_ensured limit ensured,
        run_of_ensured limit (ensureMachine_of_started started)]

/-- Let no word from the entry point on jump or edit, and let the session be started and
run. The words are carried out in reading order, each once, until none is left, one
halts or one fails, as `RunsOver` says, and the grid stays as it is. With a budget of at
least as many steps as there are words the run does not time out. A run starts a session
that has not been started. -/
theorem straight_line_run_visits_each_word_once (session : Session) (limit : Option Int)
    (straight : ∀ pair ∈ session.freshMachine.program.wordsAhead, pair.2.KeepsLine) :
    let words := session.freshMachine.program.wordsAhead
    let budget := (limit.getD session.options.maxSteps).toNat
    let result := (do start; run limit : Action Status) session
    (words.map Prod.fst).Nodup ∧
    (leftBy result).grid = session.freshMachine.program.grid ∧
    ((∃ failure left, start session = .error failure left ∧ result = .error failure left) ∨
      ∃ ready, start session = .ok () ready ∧
        RunsOver words { ready with status := none } budget result) ∧
    (words.length ≤ budget → ∀ last, result ≠ .ok .timeout last) ∧
    (session.machine = none → run limit session = result) := by
  intro words budget result
  have distinct := session.freshMachine.program.nodup_wordsAhead
  cases begun : start session with
  | error failure left =>
      have result_eq : result = .error failure left := bind_of_error begun
      have kept := grid_leftBy_start session
      rw [begun] at kept
      rw [result_eq]
      exact ⟨distinct, kept, .inl ⟨failure, left, rfl, rfl⟩, by simp,
        fun unstarted => (run_of_unstarted unstarted limit).trans result_eq⟩
  | ok value ready =>
      have result_eq : result = run limit ready := bind_of_ok begun
      obtain ⟨calm, machine, started, after⟩ := after_of_start_eq_ok begun
      have kept := keepsSetup_start session
      rw [begun] at kept
      have options_eq : ready.options = session.options := congrArg Setup.options kept
      have budget_eq : (limit.getD ready.options.maxSteps).toNat = budget := by rw [options_eq]
      have ⟨runs, unchanged⟩ := runsOver_run started calm after straight limit
      rw [budget_eq] at runs
      rw [result_eq]
      exact ⟨distinct, unchanged, .inr ⟨ready, rfl, runs⟩, runs.ne_timeout,
        fun unstarted => (run_of_unstarted unstarted limit).trans result_eq⟩

/-- Five words, of which the third halts and so ends the run; the first picks no
operation, and the second finds nothing to load. -/
theorem straight_line_run_visits_each_word_once_halting :
    let session := create "-- volute\nx lq\nh y h".toList ⟨false, 2, true⟩ none ⟨"now", "one"⟩ [] 30
    let words := session.freshMachine.program.wordsAhead
    words.length = 5 ∧ (∃ pair, words[2]? = some pair ∧ pair.2.Halts) ∧
      (∀ last, run (some 5) session ≠ .ok .timeout last) ∧
      (leftBy (run (some 5) session)).grid = session.freshMachine.program.grid ∧
      ∃ ready idle, start session = .ok () ready ∧
        Executes { ready with status := none } (words.take 3) idle ∧
        idle.hasThreads = false ∧
        run (some 5) session =
          .ok .halted (leftBy (syncView { idle with status := some .halted })) := by
  intro session words
  have straight : ∀ pair ∈ words, pair.2.KeepsLine := by decide +kernel
  have five : words.length = 5 := by decide +kernel
  obtain ⟨last, ran, lastCount⟩ : ∃ last, run (some 5) session = .ok .halted last ∧
      last.machine.map Machine.stepCount = some 3 :=
    ⟨leftBy (run (some 5) session), by decide +kernel, by decide +kernel⟩
  obtain ⟨ready, machine, begun, readyStarted, uncounted⟩ : ∃ ready machine,
      start session = .ok () ready ∧ ready.machine = some machine ∧ machine.stepCount = 0 :=
    ⟨leftBy (start session), (leftBy (start session)).machine.getD session.freshMachine,
      by decide +kernel, by decide +kernel, by decide +kernel⟩
  obtain ⟨_, kept, runs, enough, started⟩ :=
    straight_line_run_visits_each_word_once session (some 5) straight
  rw [← started rfl] at kept runs enough
  rcases runs with ⟨_, _, failed, _⟩ | ⟨_, begunToo, runs⟩
  · cases begun.symm.trans failed
  · cases begun.symm.trans begunToo
    rw [ran] at runs
    cases runs with
    | @ended executed rest idle _ words_eq within executes ended cause settles rests =>
        obtain ⟨idleMachine, idleStarted, count_eq⟩ := executes.stepCount_eq readyStarted
        have syncStarted : ({ idle with status := some .halted } : Session).machine =
            some idleMachine := idleStarted
        obtain ⟨synced, syncedStarted, alike⟩ := exists_machine_leftBy_syncView syncStarted
        rw [syncedStarted, Option.map_some, alike.stepCount, count_eq, uncounted,
          Nat.zero_add] at lastCount
        have three : executed.length = 3 := Option.some.inj lastCount
        have taken : words.take 3 = executed := by
          rw [show words = executed ++ rest from words_eq, ← three, List.take_left]
        refine ⟨five, ?_, enough (Nat.le_of_eq five), kept, ready, idle, begun, ?_, ended, ran⟩
        · rcases cause with rfl | ⟨pair, pair_eq, halts⟩
          · rw [show words = executed ++ [] from words_eq, List.append_nil] at five
            omega
          · refine ⟨pair, ?_, halts⟩
            rw [← pair_eq, ← taken]
            rfl
        · rwa [taken]

end Session

end Palimpsest

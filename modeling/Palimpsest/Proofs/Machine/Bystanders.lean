import Palimpsest.Proofs.Machine.Rounds
import Palimpsest.Proofs.Thread.Effect
import Mathlib.Logic.Relation

/-!
# Bystanders

Threads share the grid, but a thread rebases only its own pointer. To the others a
step leaves everything that is theirs, the pointer included, and a bystander goes
on reading at the same coordinates. So an edit that spares the word of a bystander
keeps the thread on that word only where it does not displace it. Then the
bystander reads the same letters, and the same word unless the edit has brought a
letter right behind it.
-/

namespace Palimpsest

/-! ## Words that an edit spares -/

namespace Edit

variable {edit : Edit} {grid : Grid} {location : Location}

theorem displace_col_nonneg (applies : edit.Applies grid) (col_nonneg : 0 ≤ location.col) :
    0 ≤ (edit.displace location).col := by
  cases edit with
  | exchange place deleted letters =>
      rcases applies with ⟨_, _, place_nonneg, _⟩
      rw [displace]
      split
      · rw [Location.right_col]
        omega
      · exact col_nonneg
  | newRow before =>
      rw [displace]
      split
      · rw [Location.shift_col, Int.add_zero]
        exact col_nonneg
      · exact col_nonneg

/-- The letters of a spared word stand where the edit has displaced it to. -/
theorem letters_prefix_displace (applies : edit.Applies grid) (col_nonneg : 0 ≤ location.col)
    (spares : edit.Spares location (grid.readWord location).length) :
    (grid.readWord location).letters <+:
      Grid.lettersAt (edit.apply grid) (edit.displace location) := by
  rcases Nat.eq_zero_or_pos (grid.readWord location).length with empty | positive
  · rw [List.length_eq_zero_iff.mp empty]
    exact List.nil_prefix
  · have read : (grid.readWord location).letters <+: grid.lettersAt location :=
      List.takeWhile_prefix Grid.isInk
    rw [List.prefix_iff_eq_take.mp read]
    have kept := take_lettersAt_displace positive col_nonneg applies spares
    rw [Word.length] at kept
    rw [← kept]
    exact List.take_prefix _ _

/-- Where the edit has displaced a spared word to, the same word is read exactly if
no letter of a word stands behind it. -/
theorem readWord_displace_iff (applies : edit.Applies grid) (col_nonneg : 0 ≤ location.col)
    (spares : edit.Spares location (grid.readWord location).length) :
    Grid.readWord (edit.apply grid) (edit.displace location) = grid.readWord location ↔
      ¬ Grid.HasInk (edit.apply grid)
        ((edit.displace location).right (grid.readWord location).length) := by
  have unbroken : ∀ letter ∈ (grid.readWord location).letters, Grid.isInk letter = true :=
    fun _ member => List.mem_takeWhile_imp member
  rw [Grid.readWord_eq_iff, and_iff_right (letters_prefix_displace applies col_nonneg spares),
    and_iff_right unbroken]

/-- An edit that spares a word and the place behind it leaves the word as it was. -/
theorem readWord_displace_of_spares (applies : edit.Applies grid) (col_nonneg : 0 ≤ location.col)
    (spares : edit.Spares location (grid.readWord location).length)
    (behind : edit.Spares location ((grid.readWord location).length + 1)) :
    Grid.readWord (edit.apply grid) (edit.displace location) = grid.readWord location := by
  rw [readWord_displace_iff applies col_nonneg spares]
  have kept := congrArg (fun letters => letters[(grid.readWord location).length]?)
    (take_lettersAt_displace (Nat.succ_pos _) col_nonneg applies behind)
  rintro ⟨letter, found, inked⟩
  apply grid.not_hasInk_readWord_end location
  refine ⟨letter, ?_, inked⟩
  rw [Grid.letter?, Grid.lettersAt_right (displace_col_nonneg applies col_nonneg),
    List.head?_drop] at found
  rw [Grid.letter?, Grid.lettersAt_right col_nonneg, List.head?_drop, ← found]
  simpa using kept.symm

end Edit

/-! ## Calls aside -/

namespace Machine

/-- A call on a machine, whatever comes of it, that is no step of the thread with
the given key. -/
inductive Aside (key : ThreadKey) : Machine × Monitor → Machine × Monitor → Prop
  | start (state : Machine × Monitor) (name : String) (location : Option Location)
      (memory : List Text) : Aside key state (leftBy (start name location memory state))
  | step (state : Machine × Monitor)
      (other : state.1.threads[state.1.cursor]?.map Thread.key ≠ some key) :
      Aside key state (leftBy (step state))

variable {machine : Machine} {state after later : Machine × Monitor} {bystander runner : Thread}
  {pointer : Location}

/-- The others stay when the thread under the cursor is exchanged or taken off. -/
theorem mem_set_and_eraseIdx (live : bystander ∈ machine.threads)
    (under : machine.threads[machine.cursor]? = some runner)
    (other : bystander.key ≠ runner.key) (stepped : Thread) :
    bystander ∈ machine.threads.set machine.cursor stepped ∧
      bystander ∈ machine.threads.eraseIdx machine.cursor := by
  obtain ⟨served, rest, threads_eq, cursor_eq⟩ := exists_threads_eq under
  have elsewhere : bystander ∈ served ∨ bystander ∈ rest := by
    rw [threads_eq, List.mem_append, List.mem_cons] at live
    rcases live with before | rfl | behind
    · exact .inl before
    · exact absurd rfl other
    · exact .inr behind
  rw [threads_eq, cursor_eq, List.set_append_right _ _ (Nat.le_refl _),
    List.eraseIdx_append_of_length_le (Nat.le_refl _), Nat.sub_self]
  constructor
  · rw [List.set_cons_zero, List.mem_append, List.mem_cons]
    rcases elsewhere with before | behind
    · exact .inl before
    · exact .inr (.inr behind)
  · rw [List.eraseIdx_cons_zero, List.mem_append]
    exact elsewhere

/-- A call that is no step of a thread leaves the thread as it is. -/
theorem Aside.mem_threads (aside : Aside bystander.key state later)
    (live : bystander ∈ state.1.threads) : bystander ∈ later.1.threads := by
  cases aside with
  | start name location memory =>
      cases location with
      | none => exact live
      | some place =>
          have grown : bystander ∈
              (state.1.joined (state.1.newcomer name place memory)).threads :=
            List.mem_append_left _ live
          rcases start_cases state.1 state.2 name place memory with
            ⟨told, succeeded⟩ | ⟨failure, left, told, failed, rfl | rfl⟩
          · rw [succeeded]
            exact grown
          · rw [failed]
            exact live
          · rw [failed]
            exact grown
  | step other =>
      rcases state with ⟨machine, monitor⟩
      cases under : machine.threads[machine.cursor]? with
      | none =>
          rw [step_of_idle under]
          exact live
      | some runner =>
          have apart : bystander.key ≠ runner.key := by
            rintro equal
            apply other
            rw [under, Option.map_some, equal]
          cases stepped : Scene.step ⟨runner, machine.program, monitor⟩ with
          | error failure scene =>
              rw [step_of_scene_error under stepped]
              exact (mem_set_and_eraseIdx live under apart scene.thread).1
          | ok value scene =>
              obtain ⟨told, step_eq⟩ := step_of_scene_ok under stepped
              obtain ⟨exchanged, takenOff⟩ := mem_set_and_eraseIdx live under apart scene.thread
              rw [step_eq]
              change bystander ∈ if scene.thread.isRunning then _ else _
              split
              · exact exchanged
              · exact takenOff

/-- So it stays until its own next step. -/
theorem mem_threads_of_asides (live : bystander ∈ state.1.threads)
    (asides : Relation.ReflTransGen (Aside bystander.key) state later) :
    bystander ∈ later.1.threads := by
  induction asides with
  | refl => exact live
  | tail _ aside inductionHypothesis => exact aside.mem_threads inductionHypothesis

/-- A step of a machine makes the edit of the thread under the cursor and no other. -/
theorem changedBy_of_step_eq_ok (under : state.1.threads[state.1.cursor]? = some runner)
    (stepped : step state = .ok () after) :
    state.1.program.ChangedBy after.1.program (runner.edit? state.1.program.grid) := by
  rcases step_eq_ok stepped with ⟨idle, _⟩ | ⟨thread, scene, found, sceneStepped, after_eq⟩
  · rw [under] at idle
    cases idle
  · rw [under] at found
    cases found
    rw [after_eq]
    exact Scene.changedBy_of_step_eq_ok sceneStepped

/-- A step of one thread leaves another one as it is until that is stepped itself,
its pointer included. If the grid is not edited again before, the other one finds
there what the edit has left at its old coordinates. Without an edit that is its
word. The letters of a word that the edit spares stand where the edit has displaced
them to, and so does the whole word when the place behind it is spared as well. If
they are not displaced, the other thread reads the same word exactly when no letter
of a word stands behind it now. -/
theorem bystander_keeps_word_unless_displaced
    (under : state.1.threads[state.1.cursor]? = some runner)
    (live : bystander ∈ state.1.threads) (other : bystander.key ≠ runner.key)
    (stands : bystander.pointer = some pointer)
    (valid : state.1.program.grid.isValid pointer = true)
    (stepped : step state = .ok () after)
    (asides : Relation.ReflTransGen (Aside bystander.key) after later) :
    let word := state.1.program.grid.readWord pointer
    bystander ∈ later.1.threads ∧
    (later.1.program.grid = after.1.program.grid →
      (runner.edit? state.1.program.grid = none →
        bystander.instruction? later.1.program = some word) ∧
      ∀ edit, runner.edit? state.1.program.grid = some edit →
        edit.Spares pointer word.length →
        word.letters <+: later.1.program.grid.lettersAt (edit.displace pointer) ∧
        (edit.Spares pointer (word.length + 1) →
          later.1.program.grid.readWord (edit.displace pointer) = word) ∧
        (edit.displace pointer = pointer →
          (bystander.instruction? later.1.program = some word ↔
            ¬ later.1.program.grid.HasInk (pointer.right word.length)))) := by
  intro word
  have reads : bystander.instruction? later.1.program =
      some (later.1.program.grid.readWord pointer) := by
    rw [Thread.instruction?, stands, Option.map_some]
  have aside : Aside bystander.key state (leftBy (step state)) := by
    apply Aside.step
    rw [under, Option.map_some]
    intro equal
    exact other (Option.some.inj equal).symm
  rw [stepped] at aside
  refine ⟨mem_threads_of_asides (aside.mem_threads live) asides, ?_⟩
  intro unedited
  have changed := changedBy_of_step_eq_ok under stepped
  rw [reads, unedited]
  constructor
  · intro nothing
    rw [nothing] at changed
    rw [show after.1.program = state.1.program from changed]
  · intro edit edit_eq spares
    rw [edit_eq] at changed
    rcases changed with ⟨applies, grid_eq⟩
    have col_nonneg : 0 ≤ pointer.col := by
      obtain ⟨letter, found⟩ := Option.isSome_iff_exists.mp valid
      rcases Grid.letter?_eq_some_iff.mp found with ⟨_, _, col_nonneg, _⟩
      exact col_nonneg
    rw [grid_eq]
    refine ⟨Edit.letters_prefix_displace applies col_nonneg spares,
      Edit.readWord_displace_of_spares applies col_nonneg spares, ?_⟩
    intro stays
    have reread := Edit.readWord_displace_iff applies col_nonneg spares
    rw [stays] at reread
    rw [Option.some_inj]
    exact reread

/-- A machine with a thread that runs next, with the given memory listed from the top
down, and another one that has no memory. -/
def pair (text : String) (first : Location) (memory : List String) (second : Location) :
    Machine :=
  ⟨.load text.toList false,
    [⟨"first", .number 0, some first, memory.map String.toList⟩,
      ⟨"second", .number 1, some second, []⟩], 0, 0, 2⟩

theorem bystander_keeps_word_unless_displaced_lower_row :
    let begun := (pair "n\nq w" ⟨0, 0⟩ ["zz", "1:2"] ⟨1, 0⟩, (Scene.alone "" ⟨0, 0⟩ []).monitor)
    let later := leftBy (start "third" (some ⟨1, 0⟩) [] (leftBy (step begun)))
    later.1.program.grid = [[['n'], ['z'], ['z']], [['q'], [' '], ['w']]] ∧
      ⟨"second", .number 1, some ⟨1, 0⟩, []⟩ ∈ later.1.threads ∧
      Thread.instruction? ⟨"second", .number 1, some ⟨1, 0⟩, []⟩ later.1.program =
        some ⟨[['q']]⟩ := by
  intro begun later
  have under : begun.1.threads[begun.1.cursor]? =
      some ⟨"first", .number 0, some ⟨0, 0⟩, ["zz".toList, "1:2".toList]⟩ :=
    rfl
  have live : (⟨"second", .number 1, some ⟨1, 0⟩, []⟩ : Thread) ∈ begun.1.threads :=
    List.mem_cons_of_mem _ List.mem_cons_self
  have stepped : step begun = .ok () (leftBy (step begun)) := by decide +kernel
  have asides : Relation.ReflTransGen (Aside (.number 1)) (leftBy (step begun)) later :=
    .single (.start _ _ _ _)
  have word_eq : begun.1.program.grid.readWord ⟨1, 0⟩ = ⟨[['q']]⟩ := by decide +kernel
  have pasted : Thread.edit? ⟨"first", .number 0, some ⟨0, 0⟩, ["zz".toList, "1:2".toList]⟩
      begun.1.program.grid = some (.exchange ⟨0, 1⟩ 0 [['z'], ['z']]) := by
    decide +kernel
  have spares (length : Nat) : (Edit.exchange ⟨0, 1⟩ 0 [['z'], ['z']]).Spares ⟨1, 0⟩ length :=
    fun same => absurd same (by decide)
  obtain ⟨stays, unedited⟩ := bystander_keeps_word_unless_displaced under live (by decide) rfl
    (by decide +kernel) stepped asides
  obtain ⟨_, _, undisplaced⟩ := (unedited (by decide +kernel)).2 _ pasted (spares _)
  rw [word_eq] at undisplaced
  refine ⟨by decide +kernel, stays, (undisplaced rfl).mpr ?_⟩
  rintro ⟨letter, found, inked⟩
  have blank : later.1.program.grid.letter? ((⟨1, 0⟩ : Location).right 1) = some [' '] := by
    decide +kernel
  obtain rfl : [' '] = letter := Option.some.inj (blank.symm.trans found)
  exact absurd inked (by decide)

/-- A bystander may find another word at its coordinates: the one that the edit has
moved there, or its own made longer. -/
theorem spared_word_of_bystander_moves_or_grows :
    (∃ edit after, Thread.edit? ⟨"first", .number 0, some ⟨1, 0⟩, ["zz".toList, "1:1".toList]⟩
        (pair "x h\nn q" ⟨1, 0⟩ ["zz", "1:1"] ⟨0, 2⟩).program.grid = some edit ∧
      edit.Spares ⟨0, 2⟩ 1 ∧
      Thread.instruction? ⟨"second", .number 1, some ⟨0, 2⟩, []⟩
        (pair "x h\nn q" ⟨1, 0⟩ ["zz", "1:1"] ⟨0, 2⟩).program = some ⟨[['h']]⟩ ∧
      step (pair "x h\nn q" ⟨1, 0⟩ ["zz", "1:1"] ⟨0, 2⟩, (Scene.alone "" ⟨0, 0⟩ []).monitor) =
        .ok () after ∧
      after.1.threads[after.1.cursor]? = some ⟨"second", .number 1, some ⟨0, 2⟩, []⟩ ∧
      Thread.instruction? ⟨"second", .number 1, some ⟨0, 2⟩, []⟩ after.1.program =
        some ⟨[['x']]⟩) ∧
    ∃ edit after, Thread.edit? ⟨"first", .number 0, some ⟨1, 0⟩, ["q".toList, "1:2".toList]⟩
        (pair "J\nn q" ⟨1, 0⟩ ["q", "1:2"] ⟨0, 0⟩).program.grid = some edit ∧
      edit.Spares ⟨0, 0⟩ 1 ∧
      Thread.instruction? ⟨"second", .number 1, some ⟨0, 0⟩, []⟩
        (pair "J\nn q" ⟨1, 0⟩ ["q", "1:2"] ⟨0, 0⟩).program = some ⟨[['J']]⟩ ∧
      step (pair "J\nn q" ⟨1, 0⟩ ["q", "1:2"] ⟨0, 0⟩, (Scene.alone "" ⟨0, 0⟩ []).monitor) =
        .ok () after ∧
      after.1.threads[after.1.cursor]? = some ⟨"second", .number 1, some ⟨0, 0⟩, []⟩ ∧
      Thread.instruction? ⟨"second", .number 1, some ⟨0, 0⟩, []⟩ after.1.program =
        some ⟨[['J'], ['q']]⟩ := by
  constructor
  · refine ⟨.exchange ⟨0, 0⟩ 0 [['z'], ['z']],
      leftBy (step (pair "x h\nn q" ⟨1, 0⟩ ["zz", "1:1"] ⟨0, 2⟩,
        (Scene.alone "" ⟨0, 0⟩ []).monitor)), by decide +kernel, ?_, by decide +kernel,
      by decide +kernel, by decide +kernel, by decide +kernel⟩
    exact (Edit.spares_exchange_iff (by decide)).mpr fun _ => .inl (by decide)
  · refine ⟨.exchange ⟨0, 1⟩ 0 [['q']],
      leftBy (step (pair "J\nn q" ⟨1, 0⟩ ["q", "1:2"] ⟨0, 0⟩,
        (Scene.alone "" ⟨0, 0⟩ []).monitor)), by decide +kernel, ?_, by decide +kernel,
      by decide +kernel, by decide +kernel, by decide +kernel⟩
    exact (Edit.spares_exchange_iff (by decide)).mpr fun _ => .inr (by decide)

end Machine

end Palimpsest

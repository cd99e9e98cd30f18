import Palimpsest.Proofs.Thread.Rebase

/-!
# Edits of the executing word

An instruction may delete, exchange or part the letters of its own word. The end
of the word then has an image in the edited row, and the next word from there on
is the old successor. The thread does not look for that image. It rebases its
pointer by the place where the edit begins, and steps over as many letters as its
word had. So it finds the old successor exactly when no letter of a word stands
between the two places; otherwise it skips letters, or reads what is left of its
own word, or goes back.
-/

namespace Palimpsest

/-! ## How much is deleted -/

namespace Instruction

variable {instruction : Instruction} {grid : Grid} {memory : List Text} {place : Location}
  {deleted : Nat} {letters : List Letter}

/-- A save replaces a word, a deletion takes off a word with the blanks behind it or a
single letter, and other instructions only put letters in. -/
theorem replace_of_request?_eq {length : Int} {text : Text}
    (request_eq : instruction.request? grid memory = some (.replace place length text)) :
    instruction.opcode = .save ∧ length = (grid.readWord place).length ∨
    instruction.opcode = .deleteWord ∧ length = (grid.readWordAndBlanks place).length ∨
    instruction.opcode = .deleteLetter ∧ length = 1 ∧ text = [] ∨
    (instruction.opcode = .appendWord ∨ instruction.opcode = .paste) ∧ length = 0 := by
  rcases instruction with ⟨opcode, operand⟩
  cases opcode with
  | save =>
      cases memory with
      | nil => cases request_eq
      | cons value rest =>
          rcases Option.map_eq_some_iff.mp request_eq with ⟨location, _, ⟨⟩⟩
          exact .inl ⟨rfl, rfl⟩
  | appendWord =>
      rcases memory with _ | ⟨word, _ | ⟨address, rest⟩⟩
      · cases request_eq
      · cases request_eq
      · rcases Option.map_eq_some_iff.mp request_eq with ⟨location, _, ⟨⟩⟩
        exact .inr (.inr (.inr ⟨.inl rfl, rfl⟩))
  | addLine =>
      cases memory with
      | nil => cases request_eq
      | cons address rest =>
          rcases Option.map_eq_some_iff.mp request_eq with ⟨location, _, other⟩
          cases other
  | deleteWord =>
      cases memory with
      | nil => cases request_eq
      | cons address rest =>
          rcases Option.map_eq_some_iff.mp request_eq with ⟨location, _, ⟨⟩⟩
          exact .inr (.inl ⟨rfl, rfl⟩)
  | deleteLetter =>
      cases memory with
      | nil => cases request_eq
      | cons address rest =>
          rcases Option.map_eq_some_iff.mp request_eq with ⟨location, _, ⟨⟩⟩
          exact .inr (.inr (.inl ⟨rfl, rfl, rfl⟩))
  | paste =>
      rcases memory with _ | ⟨text, _ | ⟨address, rest⟩⟩
      · cases request_eq
      · cases request_eq
      · rcases Option.map_eq_some_iff.mp request_eq with ⟨location, _, ⟨⟩⟩
        exact .inr (.inr (.inr ⟨.inr rfl, rfl⟩))
  | _ => cases request_eq

/-- No more letters are exchanged than the instruction asks for. -/
theorem exists_replace_of_edit?_eq
    (edit_eq : instruction.edit? grid memory = some (.exchange place deleted letters)) :
    ∃ length text, instruction.request? grid memory = some (.replace place length text) ∧
      deleted ≤ length.toNat ∧ letters = Cluster.split text := by
  rcases Option.bind_eq_some_iff.mp edit_eq with ⟨request, request_eq, edit_eq⟩
  cases request with
  | replace location length text =>
      obtain ⟨_, _, rfl, deleted_eq, letters_eq⟩ := Request.edit?_replace_eq_some edit_eq
      exact ⟨length, text, request_eq, deleted_eq ▸ Nat.min_le_left _ _, letters_eq⟩
  | addLine before =>
      simp only [Request.edit?] at edit_eq
      split at edit_eq <;> cases edit_eq

/-- The four kinds of exchange that instructions make. -/
theorem exchange_cases
    (edit_eq : instruction.edit? grid memory = some (.exchange place deleted letters)) :
    instruction.opcode = .save ∧ deleted ≤ (grid.readWord place).length ∨
    instruction.opcode = .deleteWord ∧ deleted ≤ (grid.readWordAndBlanks place).length ∨
    instruction.opcode = .deleteLetter ∧ deleted ≤ 1 ∧ letters = [] ∨
    (instruction.opcode = .appendWord ∨ instruction.opcode = .paste) ∧ deleted = 0 := by
  obtain ⟨length, text, request_eq, deleted_le, rfl⟩ := exists_replace_of_edit?_eq edit_eq
  rcases replace_of_request?_eq request_eq with
    ⟨opcode_eq, rfl⟩ | ⟨opcode_eq, rfl⟩ | ⟨opcode_eq, rfl, rfl⟩ | ⟨opcode_eq, rfl⟩
  · exact .inl ⟨opcode_eq, deleted_le⟩
  · exact .inr (.inl ⟨opcode_eq, deleted_le⟩)
  · exact .inr (.inr (.inl ⟨opcode_eq, deleted_le, rfl⟩))
  · exact .inr (.inr (.inr ⟨opcode_eq, Nat.le_zero.mp deleted_le⟩))

/-- Nothing but blanks is deleted from a place without a letter of a word on. -/
theorem not_hasInk_of_deleted {wordEnd : Location} {col : Int}
    (edit_eq : instruction.edit? grid memory = some (.exchange place deleted letters))
    (level : place.row = wordEnd.row) (begins : place.col < wordEnd.col)
    (blank : ¬ grid.HasInk wordEnd) (behind : wordEnd.col ≤ col)
    (inside : col < place.col + deleted) : ¬ grid.HasInk ⟨wordEnd.row, col⟩ := by
  obtain ⟨before, before_eq⟩ := Int.eq_ofNat_of_zero_le (show 0 ≤ wordEnd.col - place.col by omega)
  obtain ⟨across, across_eq⟩ := Int.eq_ofNat_of_zero_le (show 0 ≤ col - place.col by omega)
  have blank : ¬ grid.HasInk (place.right before) := by
    rwa [← before_eq, Location.right_sub_col, level]
  have shorter : (grid.readWord place).length ≤ (grid.readWordAndBlanks place).length :=
    (List.prefix_append _ _).length_le
  rw [← level, ← Location.right_sub_col, across_eq]
  apply Grid.not_hasInk_of_lt_readWordAndBlanks blank (by omega)
  rcases exchange_cases edit_eq with
    ⟨_, word⟩ | ⟨_, spanned⟩ | ⟨_, single, _⟩ | ⟨_, nothing⟩ <;> omega

end Instruction

/-! ## The end of the word and its image -/

namespace Edit

variable {grid : Grid} {place pointer wordEnd : Location} {deleted length : Nat}
  {letters : List Letter}

/-- Where the end of a word goes when letters of the word are exchanged: by the
letters gained or lost, or behind the new letters when those exchanged reach beyond
it. -/
def imageOfEnd (place : Location) (deleted : Nat) (letters : List Letter) (wordEnd : Location) :
    Location :=
  if place.col + deleted ≤ wordEnd.col then wordEnd.right (letters.length - deleted)
  else place.right letters.length

/-- Where a thread takes the end of its word to be when letters of the word are
exchanged: it moves by the letters gained or lost when the exchange begins before
the pointer, and stays otherwise. -/
def assumedEnd (place : Location) (deleted : Nat) (letters : List Letter)
    (pointer wordEnd : Location) : Location :=
  if place.col < pointer.col then wordEnd.right (letters.length - deleted) else wordEnd

/-- An exchange that does not spare a word begins before its end and ends behind
its beginning, in its row. -/
theorem overlaps_of_not_spares (positive : 0 < length)
    (overlaps : ¬ (exchange place deleted letters).Spares pointer length) :
    place.row = pointer.row ∧ pointer.col < place.col + deleted ∧
      place.col < pointer.col + length := by
  rw [spares_exchange_iff positive, Classical.not_imp, not_or] at overlaps
  omega

/-- The next word from the image of the end of a word is the old successor,
displaced, when nothing but blanks is deleted behind the word. -/
theorem nextWord_imageOfEnd (applies : (exchange place deleted letters).Applies grid)
    (same : place.row = wordEnd.row)
    (blank : ∀ col, wordEnd.col ≤ col → col < place.col + deleted →
      ¬ grid.HasInk ⟨wordEnd.row, col⟩) :
    Grid.nextWord ((exchange place deleted letters).apply grid)
        (imageOfEnd place deleted letters wordEnd) =
      (grid.nextWord wordEnd).map (exchange place deleted letters).displace := by
  by_cases ends : place.col + deleted ≤ wordEnd.col
  · have image : imageOfEnd place deleted letters wordEnd =
        (exchange place deleted letters).displace wordEnd := by
      rw [imageOfEnd, if_pos ends, displace, if_pos ⟨same, ends⟩]
    rw [image]
    exact nextWord_displace applies (.inr ⟨same, ends⟩)
  · have image : imageOfEnd place deleted letters wordEnd =
        (exchange place deleted letters).displace ⟨wordEnd.row, place.col + deleted⟩ := by
      rw [imageOfEnd, if_neg ends, displace, if_pos ⟨same, Int.le_refl _⟩]
      simp only [Location.right, Location.shift, Location.mk.injEq]
      omega
    have successor : grid.nextWord wordEnd =
        grid.nextWord ⟨wordEnd.row, place.col + deleted⟩ :=
      (Grid.nextWord_eq_iff (by omega)).mpr blank
    rw [image, successor]
    exact nextWord_displace applies (.inr ⟨same, Int.le_refl _⟩)

theorem imageOfEnd_row (same : place.row = wordEnd.row) :
    (imageOfEnd place deleted letters wordEnd).row = wordEnd.row := by
  rw [imageOfEnd]
  split
  · exact Location.right_row _ _
  · rw [Location.right_row, same]

theorem assumedEnd_row :
    (assumedEnd place deleted letters pointer wordEnd).row = wordEnd.row := by
  rw [assumedEnd]
  split
  · exact Location.right_row _ _
  · rfl

/-- A thread steps over its word up to the end that it assumes. -/
theorem right_rebasedBy {opcode : Opcode} (same : place.row = pointer.row)
    (apart : opcode = .paste → place.col ≠ pointer.col) :
    (Frame.rebasedBy (exchange place deleted letters) opcode pointer).right length =
      assumedEnd place deleted letters pointer (pointer.right length) := by
  rw [Frame.rebasedBy, Frame.rebasedPointer, assumedEnd]
  by_cases before : place.col < pointer.col
  · rw [if_pos ⟨same, .inl before⟩, if_pos before, Location.right_comm]
  · have stays : ¬ (place.row = pointer.row ∧ (place.col < pointer.col ∨
        decide (opcode = .paste) = true ∧ place.col = pointer.col)) := by
      rintro ⟨_, earlier | ⟨pastes, equal⟩⟩
      · exact before earlier
      · exact apart (of_decide_eq_true pastes) equal
    rw [if_neg stays, if_neg before]

/-- When a single letter is deleted from a word, only the place behind the word can
come between the two ends. -/
theorem blank_between_of_single (applies : (exchange place deleted []).Applies grid)
    (level : place.row = wordEnd.row) (notBefore : pointer.col ≤ place.col)
    (ends : place.col + deleted ≤ wordEnd.col) (single : deleted ≤ 1)
    (blank : ¬ grid.HasInk wordEnd) (col : Int)
    (reached : min (assumedEnd place deleted [] pointer wordEnd).col
      (imageOfEnd place deleted [] wordEnd).col ≤ col)
    (passed : col < max (assumedEnd place deleted [] pointer wordEnd).col
      (imageOfEnd place deleted [] wordEnd).col) :
    ¬ Grid.HasInk ((exchange place deleted []).apply grid) ⟨wordEnd.row, col⟩ := by
  have imageCol : (imageOfEnd place deleted [] wordEnd).col = wordEnd.col - deleted := by
    rw [imageOfEnd, if_pos ends, Location.right_col, List.length_nil]
    omega
  rw [imageCol, assumedEnd, if_neg (Int.not_lt.mpr notBefore)] at reached passed
  have place_eq : (exchange place deleted []).displace wordEnd = ⟨wordEnd.row, col⟩ := by
    rw [displace, if_pos ⟨level, ends⟩, ← Location.right_sub_col, List.length_nil]
    congr 1
    omega
  rw [← place_eq, hasInk_displace_iff applies (.inr ⟨level, ends⟩)]
  exact blank

end Edit

namespace Scene

variable {scene next : Scene} {pointer place : Location} {instruction : Instruction}
  {deleted : Nat} {letters : List Letter}

/-- A thread that edits its own word steps over it up to the end that it assumes. -/
theorem step_eq_ok_of_overlaps (running : scene.thread.pointer = some pointer)
    (decoded : Instruction.decode? (scene.program.grid.readWord pointer).text = some instruction)
    (edits : instruction.opcode.edits = true) (stepped : step scene = .ok () next)
    (edit_eq : instruction.edit? scene.program.grid scene.thread.memory =
      some (.exchange place deleted letters))
    (same : place.row = pointer.row) (reaches : pointer.col < place.col + deleted) :
    (Edit.exchange place deleted letters).Applies scene.program.grid ∧
      next.program.grid = (Edit.exchange place deleted letters).apply scene.program.grid ∧
      next.thread.pointer = next.program.grid.nextWord
        (Edit.assumedEnd place deleted letters pointer
          (pointer.right (scene.program.grid.readWord pointer).length)) := by
  obtain ⟨after, edited, program_eq, pointer_eq⟩ :=
    step_eq_ok_of_edits running decoded edits stepped
  rw [edit_eq] at edited
  rcases edited with ⟨applies, grid_eq, rebased⟩
  -- A paste right at the pointer would be an insertion before the word.
  have apart : instruction.opcode = .paste → place.col ≠ pointer.col := by
    intro pastes equal
    have nothing : deleted = 0 := by
      simpa [pastes] using Instruction.exchange_cases edit_eq
    omega
  refine ⟨applies, program_eq ▸ grid_eq, ?_⟩
  rw [pointer_eq, rebased]
  exact congrArg _ (Edit.right_rebasedBy same apart)

/-- A thread that edits its own word goes on at the next word from where it takes
the end of the word to be. From the image of that end the next word would be the
old successor. The thread goes on there exactly when no letter of a word stands
between the two places, which is always so when a single letter is deleted, and
when the exchange begins before the pointer and ends with the word. -/
theorem step_continues_behind_assumed_end (running : scene.thread.pointer = some pointer)
    (decoded : Instruction.decode? (scene.program.grid.readWord pointer).text = some instruction)
    (edits : instruction.opcode.edits = true) (stepped : step scene = .ok () next)
    (edit_eq : instruction.edit? scene.program.grid scene.thread.memory =
      some (.exchange place deleted letters))
    (overlaps : ¬ (Edit.exchange place deleted letters).Spares pointer
      (scene.program.grid.readWord pointer).length) :
    let wordEnd := pointer.right (scene.program.grid.readWord pointer).length
    let assumed := Edit.assumedEnd place deleted letters pointer wordEnd
    let image := Edit.imageOfEnd place deleted letters wordEnd
    next.program.grid = (Edit.exchange place deleted letters).apply scene.program.grid ∧
    next.thread.pointer = next.program.grid.nextWord assumed ∧
    next.program.grid.nextWord image =
      (scene.program.grid.nextWord wordEnd).map (Edit.exchange place deleted letters).displace ∧
    (next.thread.pointer = next.program.grid.nextWord image ↔
      ∀ col, min assumed.col image.col ≤ col → col < max assumed.col image.col →
        ¬ next.program.grid.HasInk ⟨pointer.row, col⟩) ∧
    (instruction.opcode = .deleteLetter ∨
        place.col < pointer.col ∧ place.col + deleted ≤ wordEnd.col →
      next.thread.pointer = next.program.grid.nextWord image) := by
  intro wordEnd assumed image
  have positive := (hasInk_of_decode decoded).readWord_length_pos
  obtain ⟨same, reaches, begins⟩ := Edit.overlaps_of_not_spares positive overlaps
  have begins : place.col < wordEnd.col := begins
  obtain ⟨applies, grid_eq, pointer_eq⟩ :=
    step_eq_ok_of_overlaps running decoded edits stepped edit_eq same reaches
  have row_eq : wordEnd.row = pointer.row := Location.right_row _ _
  have level : place.row = wordEnd.row := same.trans row_eq.symm
  have atEnd : ¬ scene.program.grid.HasInk wordEnd :=
    scene.program.grid.not_hasInk_readWord_end pointer
  have between : next.thread.pointer = next.program.grid.nextWord image ↔
      ∀ col, min assumed.col image.col ≤ col → col < max assumed.col image.col →
        ¬ next.program.grid.HasInk ⟨pointer.row, col⟩ := by
    have assumedRow : assumed.row = pointer.row := Edit.assumedEnd_row.trans row_eq
    have imageRow : image.row = pointer.row := (Edit.imageOfEnd_row level).trans row_eq
    rw [pointer_eq, Grid.nextWord_eq_iff_between (assumedRow.trans imageRow.symm), assumedRow]
  refine ⟨grid_eq, pointer_eq, ?_, between, ?_⟩
  · rw [grid_eq]
    apply Edit.nextWord_imageOfEnd applies level
    intro col behind inside
    exact Instruction.not_hasInk_of_deleted edit_eq level begins atEnd behind inside
  · rintro (deletes | ⟨before, ends⟩)
    · obtain ⟨single, rfl⟩ : deleted ≤ 1 ∧ letters = [] := by
        simpa [deletes] using Instruction.exchange_cases edit_eq
      have ends : place.col + deleted ≤ wordEnd.col := by omega
      have notBefore : pointer.col ≤ place.col := by omega
      rw [between, grid_eq, ← row_eq]
      exact Edit.blank_between_of_single applies level notBefore ends single atEnd
    · have agree : assumed = image := by
        rw [show assumed = _ from if_pos before, show image = _ from if_pos ends]
      rw [pointer_eq, ← agree]

theorem step_continues_behind_assumed_end_letter :
    ∃ next, step (alone "cx h" ⟨0, 0⟩ ["1:2"]) = .ok () next ∧
      ¬ (Edit.exchange ⟨0, 1⟩ 1 []).Spares ⟨0, 0⟩ 2 ∧
      next.thread.pointer = some ⟨0, 2⟩ ∧
      next.thread.pointer =
        next.program.grid.nextWord (Edit.imageOfEnd ⟨0, 1⟩ 1 [] ⟨0, 2⟩) := by
  have running : (alone "cx h" ⟨0, 0⟩ ["1:2"]).thread.pointer = some ⟨0, 0⟩ := rfl
  have decoded : Instruction.decode?
      ((alone "cx h" ⟨0, 0⟩ ["1:2"]).program.grid.readWord ⟨0, 0⟩).text =
        some ⟨.deleteLetter, ['x']⟩ := by
    decide +kernel
  have stepped : step (alone "cx h" ⟨0, 0⟩ ["1:2"]) =
      .ok () (leftBy (step (alone "cx h" ⟨0, 0⟩ ["1:2"]))) := by
    decide +kernel
  have deletes : Instruction.edit? ⟨.deleteLetter, ['x']⟩
      (alone "cx h" ⟨0, 0⟩ ["1:2"]).program.grid
      (alone "cx h" ⟨0, 0⟩ ["1:2"]).thread.memory = some (.exchange ⟨0, 1⟩ 1 []) := by
    decide +kernel
  have length_eq : ((alone "cx h" ⟨0, 0⟩ ["1:2"]).program.grid.readWord ⟨0, 0⟩).length = 2 := by
    decide +kernel
  have overlaps : ¬ (Edit.exchange ⟨0, 1⟩ 1 []).Spares ⟨0, 0⟩ 2 := by
    rw [Edit.spares_exchange_iff (by decide)]
    decide
  have result := (step_continues_behind_assumed_end running decoded rfl stepped deletes
    (length_eq ▸ overlaps)).2.2.2.2 (.inl rfl)
  rw [length_eq] at result
  exact ⟨_, stepped, overlaps, by decide +kernel, result⟩

/-- The thread need not go on behind the image of the end of its word: it may skip
letters of the word that follows, read what is left of its own word, or go back to
an earlier word. -/
theorem own_edit_skips_rereads_or_goes_back :
    (∃ next, step (alone "d xy h" ⟨0, 0⟩ ["1:1"]) = .ok () next ∧
      Instruction.edit? ⟨.deleteWord, []⟩ (alone "d xy h" ⟨0, 0⟩ ["1:1"]).program.grid
        (alone "d xy h" ⟨0, 0⟩ ["1:1"]).thread.memory = some (.exchange ⟨0, 0⟩ 2 []) ∧
      ¬ (Edit.exchange ⟨0, 0⟩ 2 []).Spares ⟨0, 0⟩ 1 ∧
      next.program.grid.nextWord (Edit.imageOfEnd ⟨0, 0⟩ 2 [] ⟨0, 1⟩) = some ⟨0, 0⟩ ∧
      next.thread.pointer = some ⟨0, 1⟩) ∧
    (∃ next, step (alone "s h" ⟨0, 0⟩ ["abc"]) = .ok () next ∧
      Instruction.edit? ⟨.save, []⟩ (alone "s h" ⟨0, 0⟩ ["abc"]).program.grid
        (alone "s h" ⟨0, 0⟩ ["abc"]).thread.memory =
          some (.exchange ⟨0, 0⟩ 1 [['a'], ['b'], ['c']]) ∧
      ¬ (Edit.exchange ⟨0, 0⟩ 1 [['a'], ['b'], ['c']]).Spares ⟨0, 0⟩ 1 ∧
      next.program.grid.nextWord
        (Edit.imageOfEnd ⟨0, 0⟩ 1 [['a'], ['b'], ['c']] ⟨0, 1⟩) = some ⟨0, 4⟩ ∧
      next.thread.pointer = some ⟨0, 1⟩) ∧
    ∃ next, step (alone "x abd  y" ⟨0, 4⟩ ["1:3"]) = .ok () next ∧
      Instruction.edit? ⟨.deleteWord, []⟩ (alone "x abd  y" ⟨0, 4⟩ ["1:3"]).program.grid
        (alone "x abd  y" ⟨0, 4⟩ ["1:3"]).thread.memory = some (.exchange ⟨0, 2⟩ 5 []) ∧
      ¬ (Edit.exchange ⟨0, 2⟩ 5 []).Spares ⟨0, 4⟩ 1 ∧
      next.program.grid.nextWord (Edit.imageOfEnd ⟨0, 2⟩ 5 [] ⟨0, 5⟩) = some ⟨0, 2⟩ ∧
      next.thread.pointer = some ⟨0, 0⟩ := by
  refine ⟨⟨leftBy (step (alone "d xy h" ⟨0, 0⟩ ["1:1"])), by decide +kernel, by decide +kernel,
      ?_, by decide +kernel, by decide +kernel⟩,
    ⟨leftBy (step (alone "s h" ⟨0, 0⟩ ["abc"])), by decide +kernel, by decide +kernel,
      ?_, by decide +kernel, by decide +kernel⟩,
    leftBy (step (alone "x abd  y" ⟨0, 4⟩ ["1:3"])), by decide +kernel, by decide +kernel,
      ?_, by decide +kernel, by decide +kernel⟩
  all_goals
    rw [Edit.spares_exchange_iff (by decide)]
    decide

end Scene

end Palimpsest

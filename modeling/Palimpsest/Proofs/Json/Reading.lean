import Palimpsest.Proofs.Json.Token

/-!
# Written JSON is read back

`pretty` writes a value over several lines, with the fields of every object sorted by
name; `read` reads the value that a whole text holds. Reading what has been written gives
the value back, up to the order of fields. This holds of values without fractions and
surrogates whose integers are short enough, whose objects have no name twice and which are
not nested too deep.
-/

namespace Palimpsest.Json

/-! ## Sorted fields -/

section

variable {α β : Type}

theorem perm_insertByName (entry : String × α) (fields : List (String × α)) :
    (insertByName entry fields).Perm (entry :: fields) := by
  induction fields with
  | nil => exact .refl _
  | cons head rest inductionHypothesis =>
      rw [insertByName]
      split
      · exact (inductionHypothesis.cons head).trans (.swap entry head rest)
      · exact .refl _

/-- Sorting only changes the order. -/
theorem perm_sortByName (fields : List (String × α)) : (sortByName fields).Perm fields := by
  induction fields with
  | nil => exact .refl _
  | cons head rest inductionHypothesis =>
      exact (perm_insertByName head (sortByName rest)).trans (inductionHypothesis.cons head)

/-- Sorting looks at names only. -/
theorem sortByName_map (change : α → β) (fields : List (String × α)) :
    sortByName (fields.map fun field => (field.1, change field.2)) =
      (sortByName fields).map fun field => (field.1, change field.2) := by
  have insert_eq (entry : String × α) (sorted : List (String × α)) :
      insertByName (entry.1, change entry.2)
          (sorted.map fun field => (field.1, change field.2)) =
        (insertByName entry sorted).map fun field => (field.1, change field.2) := by
    induction sorted with
    | nil => rfl
    | cons head rest inductionHypothesis =>
        rw [List.map_cons, insertByName, insertByName]
        split
        · rw [inductionHypothesis, List.map_cons]
        · rfl
  induction fields with
  | nil => rfl
  | cons head rest inductionHypothesis =>
      change insertByName _ (sortByName _) = _
      rw [inductionHypothesis]
      exact insert_eq head (sortByName rest)

end

mutual

/-- A value with the fields of all its objects sorted by name. -/
def sorted : Json → Json
  | .arr items => .arr (sortedItems items)
  | .obj fields => .obj (sortByName (sortedFields fields))
  | scalar => scalar

/-- The items of an array, each with its fields sorted. -/
def sortedItems : List Json → List Json
  | [] => []
  | item :: rest => sorted item :: sortedItems rest

/-- The fields of an object, in their order, each with the fields in its value sorted. -/
def sortedFields : List (String × Json) → List (String × Json)
  | [] => []
  | (name, value) :: rest => (name, sorted value) :: sortedFields rest

end

theorem sortedFields_eq_map (fields : List (String × Json)) :
    sortedFields fields = fields.map fun field => (field.1, field.2.sorted) := by
  induction fields with
  | nil => rfl
  | cons field rest inductionHypothesis =>
      rw [sortedFields, inductionHypothesis, List.map_cons]

theorem prettyFields_eq_map (level : Nat) (fields : List (String × Json)) :
    prettyFields level fields = fields.map fun field => (field.1, prettyAt level field.2) := by
  induction fields with
  | nil => rfl
  | cons field rest inductionHypothesis =>
      rw [prettyFields, inductionHypothesis, List.map_cons]

/-! ## Values -/

/-- A value that can be read back, nested at most `room` deep: it has no fractions and no
surrogates, its integers are short enough, and its objects have no name twice. -/
inductive Plain : (room : Nat) → Json → Prop
  | null {room : Nat} : Plain room .null
  | bool {room : Nat} (value : Bool) : Plain room (.bool value)
  | int {room : Nat} {value : Int} (short : Numeral.fits value = true) : Plain room (.int value)
  | str {room : Nat} (value : String) : Plain room (.str value)
  | arr {room : Nat} {items : List Json} (plain : ∀ item ∈ items, Plain room item) :
      Plain (room + 1) (.arr items)
  | obj {room : Nat} {fields : List (String × Json)}
      (plain : ∀ field ∈ fields, Plain room field.2) (distinct : (fields.map Prod.fst).Nodup) :
      Plain (room + 1) (.obj fields)

/-- Reading what has been written at the given level gives the value back, whatever follows
that cannot go on a number. -/
def ReadsBack (room level : Nat) (value : Json) : Prop :=
  ∀ bound rest, Ends rest → 2 * ((prettyAt level value).toList ++ rest).length ≤ bound →
    readValue (bound + 1) room ((prettyAt level value).toList ++ rest) = .ok (value.sorted, rest)

theorem isGap_of_mem_newLine {level : Nat} : ∀ c ∈ (newLine level).toList, isGap c = true := by
  intro c member
  rw [newLine, String.toList_append, String.toList_ofList] at member
  rcases List.mem_append.mp member with first | blank
  · cases List.mem_singleton.mp first
    rfl
  · rw [String.toList_ofList] at blank
    cases List.eq_of_mem_replicate blank
    rfl

/-- The blanks of a new line are skipped. -/
theorem skipGaps_newLine (level : Nat) {c : Char} (token : isGap c = false) (rest : Text) :
    skipGaps ((newLine level).toList ++ c :: rest) = c :: rest := by
  refine (Text.span_append isGap_of_mem_newLine ?_).2
  rintro _ ⟨⟩
  exact token

theorem ends_newLine (level : Nat) (rest : Text) : Ends ((newLine level).toList ++ rest) := by
  rw [newLine, String.toList_append]
  rintro _ ⟨⟩
  decide

theorem ends_comma (rest : Text) : Ends (',' :: rest) := by
  rintro _ ⟨⟩
  decide

/-- The first character of a value that has been written is no blank or byte order mark and
closes nothing. -/
def Opens (level : Nat) (value : Json) : Prop :=
  ∃ c others, (prettyAt level value).toList = c :: others ∧
    isGap c = false ∧ c ≠ ']' ∧ c ≠ Char.ofNat 0xfeff

theorem Opens.skipGaps_newLine {level : Nat} {value : Json} (opens : Opens level value)
    (rest : Text) :
    skipGaps ((newLine level).toList ++ ((prettyAt level value).toList ++ rest)) =
      (prettyAt level value).toList ++ rest := by
  obtain ⟨c, others, spelled, token, _⟩ := opens
  rw [spelled, List.cons_append]
  exact Json.skipGaps_newLine level token _

/-- The lines of an array are read item by item. -/
theorem readItems_lines {room level : Nat} {item : Json} {items : List Json}
    (opens : ∀ value ∈ item :: items, Opens level value)
    (reads : ∀ value ∈ item :: items, ReadsBack room level value) {closing rest : Text}
    (ends : Ends closing) (closes : skipGaps closing = ']' :: rest) (bound : Nat)
    (enough : 2 * ((",".intercalate (prettyItems level (item :: items))).toList ++
      closing).length ≤ bound) :
    readItems (bound + 2) room
        (skipGaps ((",".intercalate (prettyItems level (item :: items))).toList ++ closing)) =
      .ok (sortedItems (item :: items), rest) := by
  induction items generalizing item bound with
  | nil =>
      have lines_eq : (",".intercalate (prettyItems level [item])).toList =
          (newLine level).toList ++ (prettyAt level item).toList := by
        simp [prettyItems]
      rw [lines_eq, List.append_assoc] at enough ⊢
      rw [List.length_append] at enough
      rw [(opens item List.mem_cons_self).skipGaps_newLine, readItems,
        reads item List.mem_cons_self bound closing ends (by omega)]
      simp only [closes, sortedItems]
  | cons next items inductionHypothesis =>
      have lines_eq : (",".intercalate (prettyItems level (item :: next :: items))).toList =
          (newLine level).toList ++ ((prettyAt level item).toList ++
            ',' :: (",".intercalate (prettyItems level (next :: items))).toList) := by
        simp [prettyItems, String.intercalate_cons_cons]
      rw [lines_eq, List.append_assoc, List.append_assoc, List.cons_append] at enough ⊢
      rw [List.length_append] at enough
      rw [(opens item List.mem_cons_self).skipGaps_newLine, readItems,
        reads item List.mem_cons_self bound _ (ends_comma _) (by omega)]
      rw [List.length_append, List.length_cons] at enough
      obtain ⟨less, rfl⟩ : ∃ less, bound = less + 1 := ⟨bound - 1, by omega⟩
      have others := inductionHypothesis
        (fun value member => opens value (List.mem_cons_of_mem item member))
        (fun value member => reads value (List.mem_cons_of_mem item member)) less (by omega)
      simp only [show ∀ source, skipGaps (',' :: source) = ',' :: source from fun _ => rfl, others,
        sortedItems]

/-- A field whose name is new comes last. -/
theorem putField_of_notMem {name : String} {value : Json} {fields : List (String × Json)}
    (fresh : name ∉ fields.map Prod.fst) :
    putField name value fields = fields ++ [(name, value)] := by
  induction fields with
  | nil => rfl
  | cons field rest inductionHypothesis =>
      rw [List.map_cons, List.mem_cons, not_or] at fresh
      rw [putField, if_neg (Ne.symm fresh.1), inductionHypothesis fresh.2, List.cons_append]

/-- The line of a field inside of an object. -/
def fieldLine (level : Nat) (field : String × Json) : String :=
  newLine level ++ quotedString field.1 ++ ": " ++ prettyAt level field.2

theorem toList_fieldLine (level : Nat) (field : String × Json) :
    (fieldLine level field).toList = (newLine level).toList ++ Text.doubleQuote ::
      (field.1.toList.flatMap escapedChar ++
        Text.doubleQuote :: ':' :: ' ' :: (prettyAt level field.2).toList) := by
  simp [fieldLine, quotedString]

/-- Behind the value of a field the object is closed, or a comma leads on to more. -/
theorem readFields_fieldLine {room level : Nat} {field : String × Json}
    (opens : Opens level field.2) (reads : ReadsBack room level field.2) {after : Text}
    (ends : Ends after) (first : Bool) {before : List (String × Json)}
    (fresh : field.1 ∉ before.map Prod.fst) {bound : Nat}
    (enough : 2 * ((fieldLine level field).toList ++ after).length ≤ bound) :
    let source := skipGaps ((fieldLine level field).toList ++ after)
    let fields := before ++ [(field.1, field.2.sorted)]
    (∀ more, skipGaps after = Char.ofNat 0x7d :: more →
      readFields (bound + 2) room first before source = .ok (fields, more)) ∧
    ∀ more, skipGaps after = ',' :: more →
      readFields (bound + 2) room first before source =
        readFields (bound + 1) room false fields (skipGaps more) := by
  intro source fields
  have valueRead := reads bound after ends (by
    rw [toList_fieldLine] at enough
    simp only [List.length_append, List.length_cons] at enough ⊢
    omega)
  have unclosed : (first && Text.doubleQuote.toNat == 0x7d) = false := by
    rw [show (Text.doubleQuote.toNat == 0x7d) = false from rfl, Bool.and_false]
  have colon (source : Text) : skipGaps (':' :: source) = ':' :: source := rfl
  have blank : skipGaps (' ' :: ((prettyAt level field.2).toList ++ after)) =
      (prettyAt level field.2).toList ++ after := by
    obtain ⟨c, others, spelled, token, _⟩ := opens
    rw [spelled, List.cons_append, skipGaps, List.dropWhile_cons_of_pos rfl,
      List.dropWhile_cons_of_neg (by simp [token])]
  have source_eq : source = Text.doubleQuote :: (field.1.toList.flatMap escapedChar ++
      Text.doubleQuote :: ':' :: ' ' :: ((prettyAt level field.2).toList ++ after)) := by
    change skipGaps _ = _
    rw [toList_fieldLine, List.append_assoc, List.cons_append,
      skipGaps_newLine level (by decide), List.append_assoc, List.cons_append, List.cons_append,
      List.cons_append]
  have read {d : Char} {more : Text} (found : skipGaps after = d :: more) :
      readFields (bound + 2) room first before source =
        if d.toNat = 0x7d then .ok (fields, more)
        else if d = ',' then readFields (bound + 1) room false fields (skipGaps more)
        else .error (.expected "Expecting ',' delimiter" (more.length + 1)) := by
    rw [source_eq, readFields]
    simp only [unclosed, Bool.false_eq_true, if_false, if_true, readString_escaped, colon, blank,
      valueRead, found, RawText.replaced_ofText, String.ofList_toList, putField_of_notMem fresh]
    rfl
  exact ⟨fun more closes => (read closes).trans (if_pos rfl), fun more goes => read goes⟩

/-- The lines of an object are read field by field. -/
theorem readFields_lines {room level : Nat} {field : String × Json}
    {fields : List (String × Json)} (opens : ∀ entry ∈ field :: fields, Opens level entry.2)
    (reads : ∀ entry ∈ field :: fields, ReadsBack room level entry.2) {closing rest : Text}
    (ends : Ends closing) (closes : skipGaps closing = Char.ofNat 0x7d :: rest) (first : Bool)
    (before : List (String × Json))
    (distinct : ((before ++ field :: fields).map Prod.fst).Nodup) (bound : Nat)
    (enough : 2 * ((",".intercalate ((field :: fields).map (fieldLine level))).toList ++
      closing).length ≤ bound) :
    readFields (bound + 2) room first before
        (skipGaps ((",".intercalate ((field :: fields).map (fieldLine level))).toList ++ closing)) =
      .ok (before ++ (field :: fields).map fun entry => (entry.1, entry.2.sorted), rest) := by
  have fresh {name : String} {others before : List (String × Json)}
      (distinct : (before.map Prod.fst ++ name :: others.map Prod.fst).Nodup) :
      name ∉ before.map Prod.fst :=
    fun member => (List.nodup_append.mp distinct).2.2 _ member _ List.mem_cons_self rfl
  rw [List.map_append, List.map_cons] at distinct
  induction fields generalizing field before bound first with
  | nil =>
      rw [List.map_singleton, String.intercalate_singleton] at enough ⊢
      exact (readFields_fieldLine (opens field List.mem_cons_self) (reads field List.mem_cons_self)
        ends first (fresh distinct) enough).1 rest closes
  | cons next fields inductionHypothesis =>
      have lines_eq : (",".intercalate ((field :: next :: fields).map (fieldLine level))).toList =
          (fieldLine level field).toList ++
            ',' :: (",".intercalate ((next :: fields).map (fieldLine level))).toList := by
        simp [String.intercalate_cons_cons]
      rw [lines_eq, List.append_assoc, List.cons_append] at enough ⊢
      rw [(readFields_fieldLine (opens field List.mem_cons_self) (reads field List.mem_cons_self)
        (ends_comma _) first (fresh distinct) enough).2 _ rfl]
      rw [List.length_append, List.length_cons] at enough
      obtain ⟨less, rfl⟩ : ∃ less, bound = less + 1 := ⟨bound - 1, by omega⟩
      rw [inductionHypothesis (fun entry member => opens entry (List.mem_cons_of_mem field member))
          (fun entry member => reads entry (List.mem_cons_of_mem field member)) false _
          (by simpa using distinct) less (by omega)]
      simp

/-- What is neither a string nor an array nor an object is a constant or a number. -/
theorem readValue_scalar {c : Char} (unquoted : c ≠ Text.doubleQuote) (noArray : c ≠ '[')
    (noObject : c.toNat ≠ 0x7b) (bound room : Nat) (rest : Text) :
    readValue (bound + 1) room (c :: rest) = readScalar (c :: rest) := by
  simp only [readValue, if_neg unquoted, if_neg noArray, if_neg noObject]

theorem readValue_text {number : Int} (short : Numeral.fits number = true) (bound room : Nat)
    {rest : Text} (ends : Ends rest) :
    readValue (bound + 1) room (Numeral.text number ++ rest) = .ok (.int number, rest) := by
  have read := readNumber_text short ends
  obtain ⟨c, others, digit, unsigned | signed⟩ := text_begins number
  · obtain ⟨⟨unquoted, noArray, noObject⟩, _⟩ := apart_of_isDigit digit
    rw [unsigned, List.cons_append] at read ⊢
    rw [readValue_scalar unquoted noArray noObject, (readScalar_of_digit digit _).1, read]
  · rw [signed, List.cons_append, List.cons_append] at read ⊢
    rw [readValue_scalar (by decide) (by decide) (by decide), (readScalar_of_digit digit _).2, read]

section

variable (level : Nat)

@[simp]
theorem prettyAt_null : prettyAt level .null = "null" :=
  rfl

@[simp]
theorem prettyAt_true : prettyAt level (.bool true) = "true" :=
  rfl

@[simp]
theorem prettyAt_false : prettyAt level (.bool false) = "false" :=
  rfl

@[simp]
theorem prettyAt_int (value : Int) :
    prettyAt level (.int value) = String.ofList (Numeral.text value) :=
  rfl

@[simp]
theorem prettyAt_str (value : String) : prettyAt level (.str value) = quotedString value :=
  rfl

@[simp]
theorem prettyAt_arr_nil : prettyAt level (.arr []) = "[]" :=
  rfl

@[simp]
theorem prettyAt_obj_nil : prettyAt level (.obj []) = "\x7b\x7d" :=
  rfl

end

/-- The text of an array that is not empty. -/
theorem toList_prettyAt_arr (level : Nat) (item : Json) (items : List Json) :
    (prettyAt level (.arr (item :: items))).toList =
      '[' :: ((",".intercalate (prettyItems (level + 1) (item :: items))).toList ++
        ((newLine level).toList ++ [']'])) := by
  simp [prettyAt]

/-- The text of an object that is not empty. -/
theorem toList_prettyAt_obj (level : Nat) {fields : List (String × Json)} (nonempty : fields ≠ []) :
    (prettyAt level (.obj fields)).toList =
      Char.ofNat 0x7b ::
        ((",".intercalate ((sortByName fields).map (fieldLine (level + 1)))).toList ++
          ((newLine level).toList ++ [Char.ofNat 0x7d])) := by
  have lines_eq : (sortByName (prettyFields (level + 1) fields)).map (fun entry =>
      newLine (level + 1) ++ quotedString entry.1 ++ ": " ++ entry.2) =
        (sortByName fields).map (fieldLine (level + 1)) := by
    rw [prettyFields_eq_map, sortByName_map, List.map_map]
    rfl
  rw [prettyAt]
  · simp only [lines_eq, String.toList_append, List.append_assoc]
    rfl
  · exact nonempty

/-- An array that is not empty is read back when its items are. -/
theorem readsBack_arr {room level : Nat} {item : Json} {items : List Json}
    (opens : ∀ value ∈ item :: items, Opens (level + 1) value)
    (reads : ∀ value ∈ item :: items, ReadsBack room (level + 1) value) :
    ReadsBack (room + 1) level (.arr (item :: items)) := by
  intro bound rest ends enough
  rw [toList_prettyAt_arr, List.cons_append, List.append_assoc, List.append_assoc,
    List.singleton_append] at enough ⊢
  rw [List.length_cons] at enough
  obtain ⟨less, rfl⟩ : ∃ less, bound = less + 2 := ⟨bound - 2, by omega⟩
  have read := readItems_lines opens reads (ends_newLine level _)
    (skipGaps_newLine level (by decide) rest) less (by omega)
  obtain ⟨c, others, started, unclosed⟩ : ∃ c others,
      skipGaps ((",".intercalate (prettyItems (level + 1) (item :: items))).toList ++
        ((newLine level).toList ++ ']' :: rest)) = c :: others ∧ c ≠ ']' := by
    obtain ⟨c, others, spelled, token, unclosed, _⟩ := opens item List.mem_cons_self
    obtain ⟨more, lines_eq⟩ : ∃ more,
        (",".intercalate (prettyItems (level + 1) (item :: items))).toList =
          (newLine (level + 1)).toList ++ ((prettyAt (level + 1) item).toList ++ more) := by
      cases items with
      | nil => exact ⟨[], by simp [prettyItems]⟩
      | cons next items => exact ⟨_, by simp [prettyItems, String.intercalate_cons_cons]; rfl⟩
    rw [lines_eq, spelled, List.append_assoc, List.cons_append, List.cons_append,
      skipGaps_newLine (level + 1) token]
    exact ⟨c, _, rfl, unclosed⟩
  rw [started] at read
  simp only [readValue, if_neg (show '[' ≠ Text.doubleQuote by decide), if_true, started,
    Nat.add_one_ne_zero, if_false, Nat.add_sub_cancel, sorted]
  split
  · rename_i after same
    exact absurd (List.cons.inj same).1 unclosed
  · rw [read]

/-- An object that is not empty is read back when its values are and no name is given twice. -/
theorem readsBack_obj {room level : Nat} {fields : List (String × Json)} (nonempty : fields ≠ [])
    (opens : ∀ entry ∈ fields, Opens (level + 1) entry.2)
    (reads : ∀ entry ∈ fields, ReadsBack room (level + 1) entry.2)
    (distinct : (fields.map Prod.fst).Nodup) : ReadsBack (room + 1) level (.obj fields) := by
  intro bound rest ends enough
  rw [toList_prettyAt_obj level nonempty, List.cons_append, List.append_assoc, List.append_assoc,
    List.singleton_append] at enough ⊢
  have same := perm_sortByName fields
  have sorted_eq : sortByName (sortedFields fields) =
      (sortByName fields).map fun entry => (entry.1, entry.2.sorted) := by
    rw [sortedFields_eq_map, sortByName_map]
  have distinctNames : ((sortByName fields).map Prod.fst).Nodup :=
    (same.map Prod.fst).nodup_iff.mpr distinct
  have opensSorted (entry : String × Json) (member : entry ∈ sortByName fields) :=
    opens entry (same.mem_iff.mp member)
  have readsSorted (entry : String × Json) (member : entry ∈ sortByName fields) :=
    reads entry (same.mem_iff.mp member)
  obtain ⟨field, others, order⟩ :=
    List.exists_cons_of_ne_nil fun none => nonempty (List.nil_perm.mp (none ▸ same))
  rw [order] at enough distinctNames opensSorted readsSorted sorted_eq ⊢
  rw [List.length_cons] at enough
  obtain ⟨less, rfl⟩ : ∃ less, bound = less + 2 := ⟨bound - 2, by omega⟩
  have read := readFields_lines opensSorted readsSorted (ends_newLine level _)
    (skipGaps_newLine level (by decide) rest) true [] distinctNames less (by omega)
  simp only [readValue, if_neg (show Char.ofNat 0x7b ≠ Text.doubleQuote by decide),
    if_neg (show Char.ofNat 0x7b ≠ '[' by decide),
    if_pos (show (Char.ofNat 0x7b).toNat = 0x7b from rfl), Nat.add_one_ne_zero, if_false,
    Nat.add_sub_cancel, read, sorted, sorted_eq, List.nil_append]

namespace Plain

variable {room : Nat} {value : Json}

theorem opens (plain : Plain room value) (level : Nat) : Opens level value := by
  have spelled {written : String} {c : Char} {others : Text}
      (same : prettyAt level value = written) (first : written.toList = c :: others)
      (token : isGap c = false ∧ c ≠ ']' ∧ c ≠ Char.ofNat 0xfeff) : Opens level value :=
    ⟨c, others, same ▸ first, token⟩
  cases plain with
  | null => exact spelled (prettyAt_null level) rfl (by decide)
  | bool value =>
      cases value with
      | false => exact spelled (prettyAt_false level) rfl (by decide)
      | true => exact spelled (prettyAt_true level) rfl (by decide)
  | @int _ value short =>
      obtain ⟨c, others, digit, unsigned | signed⟩ := text_begins value
      · exact spelled (prettyAt_int level value) (by rw [unsigned, String.toList_ofList])
          (apart_of_isDigit digit).2
      · exact spelled (prettyAt_int level value) (by rw [signed, String.toList_ofList]) (by decide)
  | str value => exact spelled (prettyAt_str level value) String.toList_ofList (by decide)
  | @arr _ items plain =>
      cases items with
      | nil => exact spelled (prettyAt_arr_nil level) rfl (by decide)
      | cons item items => exact spelled rfl (toList_prettyAt_arr level item items) (by decide)
  | @obj _ fields plain distinct =>
      by_cases empty : fields = []
      · subst empty
        exact spelled (prettyAt_obj_nil level) rfl (by decide)
      · exact spelled rfl (toList_prettyAt_obj level empty) (by decide)

/-- What has been written is read back. -/
theorem readsBack (plain : Plain room value) (level : Nat) : ReadsBack room level value := by
  induction plain generalizing level with
  | null =>
      intro bound rest _ _
      simp only [prettyAt_null, sorted]
      exact readValue_scalar (by decide) (by decide) (by decide) bound _ _
  | bool value =>
      intro bound rest _ _
      cases value with
      | false =>
          simp only [prettyAt_false, sorted]
          exact readValue_scalar (by decide) (by decide) (by decide) bound _ _
      | true =>
          simp only [prettyAt_true, sorted]
          exact readValue_scalar (by decide) (by decide) (by decide) bound _ _
  | @int _ value short =>
      intro bound rest ends _
      simp only [prettyAt_int, String.toList_ofList, sorted]
      exact readValue_text short bound _ ends
  | str value =>
      intro bound rest _ _
      have text_eq : Json.ofRaw (.ofText value.toList) = .str value := by
        simp [Json.ofRaw, RawText.toText_ofText, Json.text]
      simp only [prettyAt_str, quotedString, String.toList_ofList, List.cons_append,
        List.append_assoc, List.nil_append, sorted]
      simp only [readValue, if_true, readString_escaped, text_eq]
  | @arr room items plain inductionHypothesis =>
      cases items with
      | nil =>
          intro bound rest _ _
          rw [prettyAt_arr_nil, sorted, sortedItems]
          rfl
      | cons item items =>
          exact readsBack_arr (fun value member => (plain value member).opens (level + 1))
            fun value member => inductionHypothesis value member (level + 1)
  | @obj room fields plain distinct inductionHypothesis =>
      by_cases empty : fields = []
      · subst empty
        intro bound rest _ enough
        have two : (prettyAt level (.obj [])).toList.length = 2 := by
          rw [prettyAt_obj_nil]
          rfl
        rw [List.length_append, two] at enough
        obtain ⟨less, rfl⟩ : ∃ less, bound = less + 1 := ⟨bound - 1, by omega⟩
        rw [prettyAt_obj_nil, sorted, sortedFields]
        rfl
      · exact readsBack_obj empty (fun entry member => (plain entry member).opens (level + 1))
          (fun entry member => inductionHypothesis entry member (level + 1)) distinct

/-- A text that holds a written value, with blanks behind it, is read as that value. -/
theorem read_pretty (plain : Plain deepest value) {gaps : Text}
    (blank : ∀ c ∈ gaps, isGap c = true) :
    read ((pretty value).toList ++ gaps) = .ok value.sorted := by
  have ends : Ends gaps := by
    intro c first
    have gap := blank c (List.mem_of_mem_head? first)
    refine ⟨?_, ?_, ?_, ?_⟩
    · by_contra digit
      rw [Bool.not_eq_false] at digit
      rw [(apart_of_isDigit digit).2.1] at gap
      cases gap
    all_goals
      rintro rfl
      exact absurd gap (by decide)
  obtain ⟨c, others, spelled, token, _, unmarked⟩ := plain.opens 0
  have marked : ((prettyAt 0 value).toList ++ gaps).head? ≠ some (Char.ofNat 0xfeff) := by
    rw [spelled]
    exact fun same => unmarked (Option.some.inj same)
  have started : skipGaps ((prettyAt 0 value).toList ++ gaps) =
      (prettyAt 0 value).toList ++ gaps := by
    rw [spelled, List.cons_append, skipGaps, List.dropWhile_cons_of_neg (by simp [token])]
  have nothing : skipGaps gaps = [] := by
    rw [skipGaps, List.dropWhile_eq_nil_iff]
    exact blank
  rw [pretty, read, if_neg marked, started, plain.readsBack 0 _ gaps ends (Nat.le_refl _)]
  simp only [nothing]

end Plain

end Palimpsest.Json

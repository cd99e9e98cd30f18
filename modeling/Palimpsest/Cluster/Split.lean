import Palimpsest.Cluster.Category

/-!
# Splitting a text into clusters

A cluster is a maximal run of code points between two boundaries. Whether the
next code point still belongs to the open cluster depends on the last code
point, on whether a pictograph waits for its joined partner, and on whether a
regional indicator waits for the second half of its pair. All three are facts
about the open cluster alone, so a cluster taken out of its text is still a
cluster. The boundaries are those of the extended grapheme clusters of UAX #29,
without its rule GB9c on Indic conjuncts.
-/

namespace Palimpsest.Cluster

/-- How far the open cluster has come towards fusing two pictographs. -/
inductive Fusion
  | idle
  | pictograph
  | joined
  deriving DecidableEq, Repr

/-- What the end of the open cluster decides about the next code point. -/
structure Tail where
  last : Category
  fusion : Fusion
  pairOpen : Bool
  deriving DecidableEq, Repr

namespace Tail

/-- The tail of a cluster that has just been opened by one code point. -/
def start (first : Category) : Tail where
  last := first
  fusion := if first = .pictograph then .pictograph else .idle
  pairOpen := first == .regional

/-- The tail after one more code point of the given category. A pictograph
keeps waiting through extending marks until a joiner fuses it; a regional
indicator opens a pair unless it closes one. -/
def extend (tail : Tail) (next : Category) : Tail where
  last := next
  fusion :=
    match next, tail.fusion with
    | .pictograph, _ => .pictograph
    | .extend, .pictograph => .pictograph
    | .joiner, .pictograph => .joined
    | _, _ => .idle
  pairOpen := next == .regional && !tail.pairOpen

/-- Whether a code point of the given category belongs to the open cluster.
Nothing attaches to a line end or a control, save a line feed to a carriage
return; Korean syllables are kept whole; marks attach backwards, prepended
marks forwards; joined pictographs and paired regional indicators fuse. -/
def joins (tail : Tail) (next : Category) : Bool :=
  match tail.last, next with
  | .carriageReturn, .lineFeed => true
  | .carriageReturn, _ => false
  | .lineFeed, _ => false
  | .control, _ => false
  | _, .carriageReturn => false
  | _, .lineFeed => false
  | _, .control => false
  | .leading, .leading => true
  | .leading, .vowel => true
  | .leading, .leadingVowel => true
  | .leading, .leadingVowelTrailing => true
  | .leadingVowel, .vowel => true
  | .leadingVowel, .trailing => true
  | .vowel, .vowel => true
  | .vowel, .trailing => true
  | .leadingVowelTrailing, .trailing => true
  | .trailing, .trailing => true
  | _, .extend => true
  | _, .joiner => true
  | _, .spacingMark => true
  | .prepend, _ => true
  | .joiner, .pictograph => tail.fusion == .joined
  | .regional, .regional => tail.pairOpen
  | _, _ => false

end Tail

/-- Split the rest of a text, given the tail of the open cluster and its code
points in reverse. -/
def splitFrom (tail : Tail) (opened : Text) : Text → List Text
  | [] => [opened.reverse]
  | c :: rest =>
    if tail.joins (category c) then
      splitFrom (tail.extend (category c)) (c :: opened) rest
    else
      opened.reverse :: splitFrom (Tail.start (category c)) [c] rest

/-- The extended grapheme clusters of a text, in order. -/
def splitExtended : Text → List Text
  | [] => []
  | c :: rest => splitFrom (Tail.start (category c)) [c] rest

/-! ## What splitting keeps -/

/-- The clusters of the rest of a text spell the open cluster and the rest. -/
theorem flatten_splitFrom (tail : Tail) (opened text : Text) :
    (splitFrom tail opened text).flatten = opened.reverse ++ text := by
  induction text generalizing tail opened with
  | nil => simp [splitFrom]
  | cons c rest inductionHypothesis =>
    simp only [splitFrom]
    split
    · simp [inductionHypothesis]
    · simp [inductionHypothesis]

/-- Splitting loses nothing. -/
theorem flatten_splitExtended (text : Text) : (splitExtended text).flatten = text := by
  cases text with
  | nil => rfl
  | cons c rest => simp [splitExtended, flatten_splitFrom]

/-- An open cluster that is not empty leads to clusters that are not. -/
theorem ne_nil_of_mem_splitFrom {tail : Tail} {opened text cluster : Text}
    (opened_ne_nil : opened ≠ []) (member : cluster ∈ splitFrom tail opened text) :
    cluster ≠ [] := by
  induction text generalizing tail opened with
  | nil =>
    simp only [splitFrom, List.mem_singleton] at member
    simpa [member] using opened_ne_nil
  | cons c rest inductionHypothesis =>
    simp only [splitFrom] at member
    split at member
    · exact inductionHypothesis (by simp) member
    · rcases List.mem_cons.1 member with rfl | later
      · simpa using opened_ne_nil
      · exact inductionHypothesis (by simp) later

/-- No cluster is empty. -/
theorem ne_nil_of_mem_splitExtended {text cluster : Text}
    (member : cluster ∈ splitExtended text) : cluster ≠ [] := by
  cases text with
  | nil => simp [splitExtended] at member
  | cons c rest => exact ne_nil_of_mem_splitFrom (by simp) member

end Palimpsest.Cluster

import Palimpsest.Cluster.Unicode
import Mathlib.Tactic.Common

/-!
# Boundaries of clusters

Where a text is cut into clusters is laid down by rules about the code points around
a place. Two of the rules look further back than one code point: a pictograph stays
with a joiner when a pictograph stands before the joiner and its marks, and regional
indicators are paired off from the first of their run on. Splitting keeps only what it
knows about the open cluster. The main results say that this is enough: a text is cut
exactly where no rule keeps its parts together, with all that stands before the place
taken into account, and the parts are then split as if each stood alone.
-/

namespace Palimpsest.Cluster

/-! ## The rules -/

namespace Category

/-- Whether code points of a category attach to whatever stands before them. -/
def attaches : Category → Bool
  | .extend => true
  | .joiner => true
  | .spacingMark => true
  | _ => false

/-- Whether code points of a category are line ends or controls, to which nothing
attaches. -/
def standsAlone : Category → Bool
  | .carriageReturn => true
  | .lineFeed => true
  | .control => true
  | _ => false

end Category

/-- Whether a pictograph comes last, but for extending marks. Categories are listed from
the last one backwards. -/
def endsInPictograph : List Category → Bool
  | .pictograph :: _ => true
  | .extend :: before => endsInPictograph before
  | _ => false

/-- Whether an odd number of regional indicators comes last. -/
def endsUnpaired : List Category → Bool
  | .regional :: before => !endsUnpaired before
  | _ => false

/-- The rules that keep a code point together with what stands before it, listed from
the nearest code point backwards. A text is cut where none of them applies. -/
inductive Coheres : List Category → Category → Prop
  /-- A line feed stays with a carriage return. -/
  | lineEnd {before} : Coheres (.carriageReturn :: before) .lineFeed
  /-- A syllable goes on behind a leading consonant, -/
  | leading {before next} :
      next ∈ [.leading, .vowel, .leadingVowel, .leadingVowelTrailing] →
      Coheres (.leading :: before) next
  /-- behind a vowel, -/
  | vowel {before last next} : last ∈ [.leadingVowel, .vowel] → next ∈ [.vowel, .trailing] →
      Coheres (last :: before) next
  /-- and behind a trailing consonant. -/
  | trailing {before last} : last ∈ [.leadingVowelTrailing, .trailing] →
      Coheres (last :: before) .trailing
  /-- A mark stays with all that does not stand alone. -/
  | mark {before last next} : last.standsAlone = false → next.attaches = true →
      Coheres (last :: before) next
  /-- All that does not stand alone stays with a prepended mark. -/
  | prepended {before next} : next.standsAlone = false → Coheres (.prepend :: before) next
  /-- A joiner fuses two pictographs. -/
  | fused {before} : endsInPictograph before = true → Coheres (.joiner :: before) .pictograph
  /-- Regional indicators come in pairs. -/
  | paired {before} : endsUnpaired before = true → Coheres before .regional

variable {before earlier : List Category} {last next : Category}

/-- At the beginning of a text no rule applies. -/
theorem not_coheres_nil (next : Category) : ¬ Coheres [] next := by
  intro coheres
  cases coheres with
  | paired unpaired => cases unpaired

theorem coheres_of_endsInPictograph (ends : endsInPictograph before = true)
    (attaches : next.attaches = true) : Coheres before next := by
  cases before with
  | nil => cases ends
  | cons last earlier =>
      refine .mark ?_ attaches
      cases last with
      | carriageReturn | lineFeed | control => cases ends
      | _ => rfl

/-! ## What the open cluster knows -/

namespace Tail

/-- How far two pictographs are fused when `last` comes last. -/
def fusionAfter (last : Category) (earlier : List Category) : Fusion :=
  match last with
  | .pictograph => .pictograph
  | .extend => if endsInPictograph earlier then .pictograph else .idle
  | .joiner => if endsInPictograph earlier then .joined else .idle
  | _ => .idle

/-- What all that stands before a place says about the next code point. -/
def after (last : Category) (earlier : List Category) : Tail where
  last := last
  fusion := fusionAfter last earlier
  pairOpen := endsUnpaired (last :: earlier)

theorem fusionAfter_extend (before : List Category) :
    fusionAfter .extend before = if endsInPictograph before then .pictograph else .idle :=
  rfl

theorem fusionAfter_joiner (before : List Category) :
    fusionAfter .joiner before = if endsInPictograph before then .joined else .idle :=
  rfl

theorem fusionAfter_eq_pictograph_iff :
    fusionAfter last earlier = .pictograph ↔ endsInPictograph (last :: earlier) = true := by
  cases last with
  | joiner =>
      rw [fusionAfter_joiner]
      split <;> simp [endsInPictograph]
  | _ => simp [fusionAfter, endsInPictograph]

/-- One more code point in the open cluster is one more code point before the place. -/
theorem extend_after : (after last earlier).extend next = after next (last :: earlier) := by
  have pairs : (next == .regional && !endsUnpaired (last :: earlier)) =
      endsUnpaired (next :: last :: earlier) := by
    cases next <;> rfl
  have fusions : ((after last earlier).extend next).fusion =
      fusionAfter next (last :: earlier) := by
    cases next with
    | extend | joiner =>
        simp only [extend, after, fusionAfter_extend, fusionAfter_joiner,
          ← fusionAfter_eq_pictograph_iff]
        cases fusionAfter last earlier <;> rfl
    | _ => rfl
  exact congrArg₂ (Tail.mk next) fusions pairs

/-- Behind a cut nothing has to be known about what stands before it. -/
theorem start_eq_after (cut : ¬ Coheres before next) : start next = after next before := by
  have unfused (attaches : next.attaches = true) : endsInPictograph before = false := by
    rw [← Bool.not_eq_true]
    exact fun ends => cut (coheres_of_endsInPictograph ends attaches)
  cases next with
  | extend | joiner => simp [start, after, fusionAfter, endsUnpaired, unfused rfl]
  | regional =>
      have paired : endsUnpaired before = false := by
        rw [← Bool.not_eq_true]
        exact fun unpaired => cut (.paired unpaired)
      simp [start, after, fusionAfter, endsUnpaired, paired]
  | _ => rfl

/-- What joins the open cluster does so by a rule. Marks come first, for their rule takes
precedence over what the last code point allows to follow. -/
theorem coheres_of_joins (joins : (after last earlier).joins next = true) :
    Coheres (last :: earlier) next := by
  cases attaches : next.attaches with
  | true =>
      refine .mark ?_ attaches
      cases last with
      | carriageReturn =>
          cases next with
          | extend | joiner | spacingMark => cases joins
          | _ => cases attaches
      | lineFeed | control => cases joins
      | _ => rfl
  | false =>
      cases last with
      | carriageReturn =>
          cases next with
          | lineFeed => exact .lineEnd
          | _ => cases joins
      | prepend =>
          cases next with
          | carriageReturn | lineFeed | control => cases joins
          | _ => exact .prepended rfl
      | leading =>
          cases next with
          | leading | vowel | leadingVowel | leadingVowelTrailing => exact .leading (by decide)
          | extend | joiner | spacingMark => cases attaches
          | _ => cases joins
      | leadingVowel | vowel =>
          cases next with
          | vowel | trailing => exact .vowel (by decide) (by decide)
          | extend | joiner | spacingMark => cases attaches
          | _ => cases joins
      | leadingVowelTrailing | trailing =>
          cases next with
          | trailing => exact .trailing (by decide)
          | extend | joiner | spacingMark => cases attaches
          | _ => cases joins
      | joiner =>
          cases next with
          | pictograph => exact .fused (by simpa [Tail.joins, after, fusionAfter] using joins)
          | extend | joiner | spacingMark => cases attaches
          | _ => cases joins
      | regional =>
          cases next with
          | regional => exact .paired joins
          | extend | joiner | spacingMark => cases attaches
          | _ => cases joins
      | _ =>
          cases next with
          | extend | joiner | spacingMark => cases attaches
          | _ => cases joins

/-- What a rule keeps together joins the open cluster. -/
theorem joins_of_coheres (coheres : Coheres (last :: earlier) next) :
    (after last earlier).joins next = true := by
  cases coheres with
  | lineEnd => rfl
  | leading follows =>
      simp only [List.mem_cons, List.not_mem_nil, or_false] at follows
      rcases follows with rfl | rfl | rfl | rfl <;> rfl
  | vowel begins follows =>
      simp only [List.mem_cons, List.not_mem_nil, or_false] at begins follows
      rcases begins with rfl | rfl <;> rcases follows with rfl | rfl <;> rfl
  | trailing begins =>
      simp only [List.mem_cons, List.not_mem_nil, or_false] at begins
      rcases begins with rfl | rfl <;> rfl
  | mark plain attaches =>
      cases last <;> cases plain <;> cases next <;> cases attaches <;> rfl
  | prepended plain => cases next <;> cases plain <;> rfl
  | fused waiting => simp [joins, after, fusionAfter, waiting]
  | paired unpaired =>
      cases last with
      | regional => exact unpaired
      | _ => cases unpaired

/-- The open cluster decides as the rules do. -/
theorem joins_after_iff :
    (after last earlier).joins next = true ↔ Coheres (last :: earlier) next :=
  ⟨coheres_of_joins, joins_of_coheres⟩

end Tail

/-! ## Cuts -/

/-- The categories of a text, from its end backwards. -/
def context (text : Text) : List Category :=
  (text.map category).reverse

@[simp]
theorem context_nil : context [] = [] :=
  rfl

@[simp]
theorem context_cons (c : Char) (text : Text) :
    context (c :: text) = context text ++ [category c] := by
  simp [context]

variable {opened more rest : Text} {d : Char}

/-- Where nothing coheres, what follows is split by itself. The induction is on what
stands between the open cluster and the cut. -/
theorem splitFrom_append_of_not_coheres
    (cut : ¬ Coheres (context more ++ last :: earlier) (category d)) :
    splitFrom (.after last earlier) opened (more ++ d :: rest) =
      splitFrom (.after last earlier) opened more ++ split (d :: rest) := by
  induction more generalizing last earlier opened with
  | nil =>
      have apart : ¬ (Tail.after last earlier).joins (category d) = true :=
        Tail.joins_after_iff.not.mpr cut
      simp [splitFrom, split_eq_splitFrom, apart]
  | cons c more inductionHypothesis =>
      have onward : ¬ Coheres (context more ++ category c :: last :: earlier) (category d) := by
        simpa using cut
      rw [List.cons_append, splitFrom, splitFrom]
      by_cases joins : (Tail.after last earlier).joins (category c) = true
      · rw [if_pos joins, if_pos joins, Tail.extend_after, inductionHypothesis onward]
      · rw [if_neg joins, if_neg joins, Tail.start_eq_after (Tail.joins_after_iff.not.mp joins),
          inductionHypothesis onward, List.cons_append]

/-- The first cluster begins with what is open. -/
theorem exists_splitFrom_eq_cons (tail : Tail) (opened text : Text) :
    ∃ more others, splitFrom tail opened text = (opened.reverse ++ more) :: others := by
  induction text generalizing tail opened with
  | nil => exact ⟨[], [], by simp [splitFrom]⟩
  | cons c rest inductionHypothesis =>
      rw [splitFrom]
      split
      · obtain ⟨more, others, split_eq⟩ :=
          inductionHypothesis (tail.extend (category c)) (c :: opened)
        exact ⟨c :: more, others, by simp [split_eq]⟩
      · exact ⟨[], _, by rw [List.append_nil]⟩

/-- Where something coheres, no cluster ends. -/
theorem flatten_ne_of_coheres (coheres : Coheres (context more ++ last :: earlier) (category d))
    (opened_ne_nil : opened ≠ []) {front back : List Text}
    (split_eq : splitFrom (.after last earlier) opened (more ++ d :: rest) = front ++ back) :
    front.flatten ≠ opened.reverse ++ more := by
  intro flatten_eq
  induction more generalizing last earlier opened front with
  | nil =>
      have joins : (Tail.after last earlier).joins (category d) = true :=
        Tail.joins_after_iff.mpr coheres
      rw [List.nil_append, splitFrom, if_pos joins] at split_eq
      obtain ⟨longer, others, begins⟩ := exists_splitFrom_eq_cons
        ((Tail.after last earlier).extend (category d)) (d :: opened) rest
      cases front with
      | nil => simp [opened_ne_nil] at flatten_eq
      | cons cluster front =>
          rw [begins] at split_eq
          obtain ⟨rfl, _⟩ := List.cons.inj split_eq
          simp at flatten_eq
  | cons c more inductionHypothesis =>
      have onward : Coheres (context more ++ category c :: last :: earlier) (category d) := by
        simpa using coheres
      rw [List.cons_append, splitFrom] at split_eq
      by_cases joins : (Tail.after last earlier).joins (category c) = true
      · rw [if_pos joins, Tail.extend_after] at split_eq
        apply inductionHypothesis onward (List.cons_ne_nil c opened) split_eq
        simpa using flatten_eq
      · rw [if_neg joins, Tail.start_eq_after (Tail.joins_after_iff.not.mp joins)] at split_eq
        cases front with
        | nil => simp at flatten_eq
        | cons cluster front =>
            obtain ⟨rfl, further⟩ := List.cons.inj split_eq
            apply inductionHypothesis onward (List.cons_ne_nil c []) further
            simpa using flatten_eq

theorem split_cons (c : Char) (text : Text) :
    split (c :: text) = splitFrom (.after (category c) []) [c] text := by
  rw [split_eq_splitFrom, Tail.start_eq_after (not_coheres_nil _)]

/-- Where nothing coheres, a text is cut, and its two parts are split independently. -/
theorem split_append_of_not_coheres {first : Text}
    (cut : ¬ Coheres (context first) (category d)) :
    split (first ++ d :: rest) = split first ++ split (d :: rest) := by
  cases first with
  | nil => rfl
  | cons c more =>
      rw [context_cons] at cut
      rw [List.cons_append, split_cons, split_cons, splitFrom_append_of_not_coheres cut]

/-- A cluster ends exactly where no rule applies. All that stands before the place is
taken into account, and nothing that follows but the next code point. -/
theorem ends_cluster_iff {first : Text} (something : first ≠ []) (d : Char) (rest : Text) :
    (∃ front back, split (first ++ d :: rest) = front ++ back ∧ front.flatten = first) ↔
      ¬ Coheres (context first) (category d) := by
  constructor
  · rintro ⟨front, back, split_eq, flatten_eq⟩ coheres
    obtain ⟨c, more, rfl⟩ := List.exists_cons_of_ne_nil something
    rw [context_cons] at coheres
    rw [List.cons_append, split_cons] at split_eq
    exact flatten_ne_of_coheres coheres (List.cons_ne_nil c []) split_eq flatten_eq
  · exact fun cut => ⟨_, _, split_append_of_not_coheres cut, flatten_split first⟩

/-- A text is a single cluster exactly when a rule applies at every place inside of it. -/
theorem split_eq_singleton_iff {text : Text} (something : text ≠ []) :
    split text = [text] ↔ ∀ first d rest, text = first ++ d :: rest → first ≠ [] →
      Coheres (context first) (category d) := by
  constructor
  · rintro single first d rest rfl first_ne_nil
    by_contra cut
    rw [split_append_of_not_coheres cut, List.append_eq_singleton_iff] at single
    rcases single with ⟨noneBefore, _⟩ | ⟨_, noneBehind⟩
    · exact split_ne_nil first_ne_nil noneBefore
    · exact split_ne_nil (List.cons_ne_nil d rest) noneBehind
  · intro coheres
    obtain ⟨cluster, others, split_eq⟩ := List.exists_cons_of_ne_nil (split_ne_nil something)
    have members : ∀ member ∈ cluster :: others, member ≠ [] :=
      fun _ inside => ne_nil_of_mem_split (split_eq ▸ inside)
    have text_eq : text = cluster ++ others.flatten := by
      rw [← flatten_split text, split_eq, List.flatten_cons]
    cases others with
    | nil => rw [split_eq, text_eq, List.flatten_nil, List.append_nil]
    | cons second more =>
        simp only [List.forall_mem_cons] at members
        obtain ⟨cluster_ne_nil, second_ne_nil, _⟩ := members
        obtain ⟨d, rest, rfl⟩ := List.exists_cons_of_ne_nil second_ne_nil
        have cut := (ends_cluster_iff cluster_ne_nil d (rest ++ more.flatten)).mp
          ⟨[cluster], _, text_eq ▸ split_eq, List.flatten_singleton⟩
        exact absurd (coheres cluster d _ text_eq cluster_ne_nil) cut

/-! ## Clusters by themselves -/

theorem split_reverse_singleton_append (c : Char) (following : Text) :
    split ([c].reverse ++ following) = splitFrom (.start (category c)) [c] following :=
  split_eq_splitFrom c following

/-- The induction keeps in view that the open cluster would be open just so if the text
began with it. -/
theorem split_of_mem_splitFrom {tail : Tail} {text cluster : Text}
    (alone : ∀ following, split (opened.reverse ++ following) = splitFrom tail opened following)
    (member : cluster ∈ splitFrom tail opened text) : split cluster = [cluster] := by
  have closed : split opened.reverse = [opened.reverse] := by
    simpa [splitFrom] using alone []
  induction text generalizing tail opened with
  | nil =>
      rw [splitFrom, List.mem_singleton] at member
      rw [member, closed]
  | cons c rest inductionHypothesis =>
      rw [splitFrom] at member
      split at member
      · rename_i joins
        have longer : ∀ following, split ((c :: opened).reverse ++ following) =
            splitFrom (tail.extend (category c)) (c :: opened) following := by
          intro following
          rw [List.reverse_cons, List.append_assoc, List.singleton_append, alone, splitFrom,
            if_pos joins]
        exact inductionHypothesis longer member (by simpa [splitFrom] using longer [])
      · rcases List.mem_cons.mp member with rfl | later
        · exact closed
        · exact inductionHypothesis (split_reverse_singleton_append c) later rfl

/-- A cluster that is cut out of its text is still a single cluster. -/
theorem split_of_mem_split {text cluster : Text} (member : cluster ∈ split text) :
    split cluster = [cluster] := by
  cases text with
  | nil => cases member
  | cons c rest => exact split_of_mem_splitFrom (split_reverse_singleton_append c) member

end Palimpsest.Cluster

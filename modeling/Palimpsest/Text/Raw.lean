import Palimpsest.Text.Quoted

/-!
# Raw texts

What a caller hands over as a program is a list of code points, and some of them
may be surrogates, which are no characters. Bytes that are not well formed reach
standard input that way, and JSON can name a surrogate alone. A raw text without
surrogates is a text. Only a text can be encoded: a surrogate has no bytes, so
whatever needs the bytes of a raw text fails at the first surrogates in it.
-/

namespace Palimpsest

/-- A code point: a character, or a surrogate by its place among the surrogates. -/
inductive CodePoint
  | scalar (character : Char)
  | surrogate (index : Fin 0x800)
  deriving DecidableEq, Repr

namespace CodePoint

/-- The number of a surrogate among all code points. -/
def surrogateValue (index : Fin 0x800) : Nat :=
  0xd800 + index

/-- Whether a code point is a surrogate. -/
def isSurrogate : CodePoint → Bool
  | .scalar _ => false
  | .surrogate _ => true

/-- The character that a code point is; the replacement character stands for a
surrogate. -/
def toChar : CodePoint → Char
  | .scalar character => character
  | .surrogate _ => Char.ofNat 0xfffd

/-- A surrogate as it is written where only characters can be. -/
def escapedSurrogate (index : Fin 0x800) : Text :=
  Text.backslash :: 'u' :: Text.hexDigits 4 (surrogateValue index)

end CodePoint

/-- A raw text, as the list of its code points. -/
abbrev RawText := List CodePoint

/-- Surrogates that keep a raw text from being encoded: the first of them, its
position, and how many stand there in a row. -/
structure EncodingError where
  first : Fin 0x800
  position : Nat
  length : Nat
  deriving DecidableEq, Repr

/-- The wording of an encoding error: a single surrogate is shown, several are
given by their positions. -/
def EncodingError.message (error : EncodingError) : String :=
  let surrogates :=
    if error.length = 1 then
      "character '" ++ String.ofList (CodePoint.escapedSurrogate error.first) ++
        "' in position " ++ toString error.position
    else
      "characters in position " ++ toString error.position ++ "-" ++
        toString (error.position + error.length - 1)
  "'utf-8' codec can't encode " ++ surrogates ++ ": surrogates not allowed"

namespace RawText

/-- A text as a raw text. -/
def ofText (text : Text) : RawText :=
  text.map .scalar

/-- The text that the rest of a raw text is, from the given position on, or the
first surrogates in it. -/
def toTextFrom (position : Nat) : RawText → Except EncodingError Text
  | [] => .ok []
  | .surrogate index :: rest =>
    .error ⟨index, position, (rest.takeWhile CodePoint.isSurrogate).length + 1⟩
  | .scalar character :: rest =>
    match toTextFrom (position + 1) rest with
    | .ok text => .ok (character :: text)
    | .error error => .error error

/-- The text that a raw text is, or the first surrogates that keep it from being
encoded. -/
def toText (source : RawText) : Except EncodingError Text :=
  toTextFrom 0 source

/-- A raw text with a replacement character for every surrogate. -/
def replaced (source : RawText) : Text :=
  source.map CodePoint.toChar

/-- Every line end as a single line feed, as `Text.foldLineEnds` has it. -/
def foldLineEnds : RawText → RawText
  | [] => []
  | [code] => if code = .scalar Text.carriageReturn then [.scalar Text.lineFeed] else [code]
  | code :: next :: rest =>
    if code = .scalar Text.carriageReturn then
      if next = .scalar Text.lineFeed then .scalar Text.lineFeed :: foldLineEnds rest
      else .scalar Text.lineFeed :: foldLineEnds (next :: rest)
    else code :: foldLineEnds (next :: rest)

/-- A raw text between quotes, with everything that needs it escaped. -/
def quoted (source : RawText) : Text :=
  let quote := Text.quoteFor source.replaced
  let escaped : CodePoint → Text
    | .scalar character => Text.quotedChar quote character
    | .surrogate index => CodePoint.escapedSurrogate index
  quote :: (source.flatMap escaped ++ [quote])

/-! ## Raw texts that are texts -/

theorem toTextFrom_ofText (position : Nat) (text : Text) :
    toTextFrom position (ofText text) = .ok text := by
  induction text generalizing position with
  | nil => rfl
  | cons c rest inductionHypothesis =>
    have rest_eq := inductionHypothesis (position + 1)
    simp only [ofText, List.map_cons, toTextFrom] at rest_eq ⊢
    rw [rest_eq]

@[simp]
theorem toText_ofText (text : Text) : (ofText text).toText = .ok text :=
  toTextFrom_ofText 0 text

theorem eq_ofText_of_toTextFrom_eq_ok {position : Nat} {source : RawText} {text : Text}
    (encodable : toTextFrom position source = .ok text) : source = ofText text := by
  induction source generalizing position text with
  | nil =>
    cases encodable
    rfl
  | cons code rest inductionHypothesis =>
    cases code with
    | surrogate index => cases encodable
    | scalar character =>
      rw [toTextFrom] at encodable
      split at encodable
      · rename_i later rest_eq
        cases encodable
        rw [inductionHypothesis rest_eq, ofText, ofText, List.map_cons]
      · cases encodable

/-- A raw text can be encoded exactly when it is a text. -/
theorem toText_eq_ok_iff {source : RawText} {text : Text} :
    source.toText = .ok text ↔ source = ofText text :=
  ⟨eq_ofText_of_toTextFrom_eq_ok, fun same => same ▸ toText_ofText text⟩

@[simp]
theorem replaced_ofText (text : Text) : (ofText text).replaced = text := by
  simp [replaced, ofText, Function.comp_def, CodePoint.toChar]

/-- Folding leaves no carriage return. -/
theorem ne_carriageReturn_of_mem_foldLineEnds {source : RawText} :
    ∀ code ∈ source.foldLineEnds, code ≠ .scalar Text.carriageReturn := by
  fun_induction foldLineEnds source with
  | case1 => simp
  | case2 => simp [Text.lineFeed, Text.carriageReturn]
  | case3 code other => simpa using other
  | case4 => simp_all [Text.lineFeed, Text.carriageReturn]
  | case5 => simp_all [Text.lineFeed, Text.carriageReturn]
  | case6 => simp_all

theorem foldLineEnds_of_ne_carriageReturn {source : RawText}
    (folded : ∀ code ∈ source, code ≠ .scalar Text.carriageReturn) :
    source.foldLineEnds = source := by
  fun_induction foldLineEnds source with
  | case1 => rfl
  | case2 => simp at folded
  | case3 => rfl
  | case4 => simp at folded
  | case5 => simp at folded
  | case6 code next rest other inductionHypothesis =>
    rw [inductionHypothesis fun later member => folded later (List.mem_cons_of_mem code member)]

/-- Folding a second time changes nothing. -/
theorem foldLineEnds_foldLineEnds (source : RawText) :
    source.foldLineEnds.foldLineEnds = source.foldLineEnds :=
  foldLineEnds_of_ne_carriageReturn ne_carriageReturn_of_mem_foldLineEnds

/-- Line ends of a text are folded as those of any raw text. -/
theorem foldLineEnds_ofText (text : Text) :
    (ofText text).foldLineEnds = ofText text.foldLineEnds := by
  fun_induction Text.foldLineEnds text with
  | case1 => rfl
  | case2 => rfl
  | case3 c other => simp [ofText, foldLineEnds, other]
  | case4 => simp_all [ofText, foldLineEnds]
  | case5 => simp_all [ofText, foldLineEnds]
  | case6 => simp_all [ofText, foldLineEnds]

/-- Folding keeps surrogates. -/
theorem surrogate_mem_foldLineEnds {source : RawText} {index : Fin 0x800}
    (member : .surrogate index ∈ source) : .surrogate index ∈ source.foldLineEnds := by
  fun_induction foldLineEnds source with
  | case1 => cases member
  | case2 => simp at member
  | case3 => exact member
  | case4 => simp_all
  | case5 => simp_all
  | case6 code next rest other inductionHypothesis =>
    rcases List.mem_cons.1 member with same | later
    · exact same ▸ List.mem_cons_self
    · exact List.mem_cons_of_mem code (inductionHypothesis later)

/-- A raw text without surrogates is a text. -/
theorem exists_eq_ofText {source : RawText} (plain : ∀ index, .surrogate index ∉ source) :
    ∃ text, source = ofText text := by
  induction source with
  | nil => exact ⟨[], rfl⟩
  | cons code rest inductionHypothesis =>
    obtain ⟨text, rfl⟩ := inductionHypothesis fun index member =>
      plain index (List.mem_cons_of_mem code member)
    cases code with
    | scalar character => exact ⟨character :: text, rfl⟩
    | surrogate index => exact absurd List.mem_cons_self (plain index)

/-- A raw text is a text once its line ends have been folded only if it was one
before. -/
theorem exists_eq_ofText_of_foldLineEnds {source : RawText} {text : Text}
    (folded : source.foldLineEnds = ofText text) : ∃ original, source = ofText original := by
  apply exists_eq_ofText
  intro index member
  have kept := surrogate_mem_foldLineEnds member
  simp [folded, ofText] at kept

end RawText

end Palimpsest

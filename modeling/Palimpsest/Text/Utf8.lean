import Palimpsest.Text.Raw

/-!
# Texts as bytes

Program files hold UTF-8. Decoding stops at the first byte sequence that is not
well formed and says which bytes are at fault: a byte that cannot start a
character, a byte sequence broken off by something that cannot continue it, or
one cut short by the end of the file. Overlong forms, surrogates and numbers
beyond the last code point are refused at the first byte that shows them.
Standard input is not refused: every byte at fault is let through as a surrogate
of its own.
-/

namespace Palimpsest.Utf8

/-- Why a byte sequence is not well formed. -/
inductive Flaw
  | badStart
  | badContinuation
  | cutShort
  deriving DecidableEq, Repr

/-- A place where decoding stops: the offending byte, its position, the number
of bytes at fault and the reason. -/
structure Error where
  byte : UInt8
  position : Nat
  length : Nat
  flaw : Flaw
  deriving DecidableEq, Repr

/-- The bytes of a text. -/
def encode (text : Text) : List UInt8 :=
  text.flatMap String.utf8EncodeChar

/-- Whether a byte can continue a character. -/
def isContinuation (byte : UInt8) : Bool :=
  byte.toNat / 64 == 2

/-- Whether a byte can stand second after the given first byte. The narrower
bounds keep out overlong forms, surrogates and numbers beyond the last code
point. -/
def isSecond (first second : UInt8) : Bool :=
  isContinuation second &&
    match first.toNat with
    | 0xe0 => decide (0xa0 ≤ second.toNat)
    | 0xed => decide (second.toNat < 0xa0)
    | 0xf0 => decide (0x90 ≤ second.toNat)
    | 0xf4 => decide (second.toNat < 0x90)
    | _ => true

/-- The number of bytes that a first byte announces. -/
def announced? (first : UInt8) : Option Nat :=
  let n := first.toNat
  if n < 0x80 then some 1
  else if n < 0xc2 then none
  else if n < 0xe0 then some 2
  else if n < 0xf0 then some 3
  else if n < 0xf5 then some 4
  else none

/-- The number of bytes after the first that carry on its character, `count` of
them at most. -/
def continued (first : UInt8) (count : Nat) : List UInt8 → Nat
  | [] => 0
  | second :: rest =>
    if count = 0 then 0
    else if isSecond first second then 1 + ((rest.take (count - 1)).takeWhile isContinuation).length
    else 0

/-- The character that a well formed byte sequence stands for. -/
def assemble (first : UInt8) (rest : List UInt8) : Char :=
  let lead := match rest.length with
    | 0 => first.toNat
    | 1 => first.toNat % 32
    | 2 => first.toNat % 16
    | _ => first.toNat % 8
  Char.ofNat (rest.foldl (fun value byte => 64 * value + byte.toNat % 64) lead)

/-- Decode bytes, skipping those that belong to a character already read. -/
def decodeFrom (position : Nat) (skip : Nat) : List UInt8 → Except Error Text
  | [] => .ok []
  | byte :: rest =>
    match skip with
    | skip + 1 => decodeFrom (position + 1) skip rest
    | 0 =>
      match announced? byte with
      | none => .error ⟨byte, position, 1, .badStart⟩
      | some size =>
        let found := continued byte (size - 1) rest
        if found = size - 1 then
          match decodeFrom (position + 1) found rest with
          | .ok text => .ok (assemble byte (rest.take found) :: text)
          | .error error => .error error
        else if found = rest.length then
          .error ⟨byte, position, found + 1, .cutShort⟩
        else
          .error ⟨byte, position, found + 1, .badContinuation⟩

/-- The text of a list of bytes, or the first place where they are not well
formed. -/
def decode (bytes : List UInt8) : Except Error Text :=
  decodeFrom 0 0 bytes

/-- The surrogate that stands for a byte at fault. -/
def escapedByte (byte : UInt8) : CodePoint :=
  .surrogate ⟨0x400 + byte.toNat, by have := byte.toNat_lt; omega⟩

/-- Decode bytes with a surrogate for every byte at fault, skipping those that
belong to a character already read. -/
def decodeEscapingFrom (skip : Nat) : List UInt8 → RawText
  | [] => []
  | byte :: rest =>
    match skip with
    | skip + 1 => decodeEscapingFrom skip rest
    | 0 =>
      match announced? byte with
      | none => escapedByte byte :: decodeEscapingFrom 0 rest
      | some size =>
        let found := continued byte (size - 1) rest
        if found = size - 1 then
          .scalar (assemble byte (rest.take found)) :: decodeEscapingFrom found rest
        else escapedByte byte :: decodeEscapingFrom 0 rest

/-- The raw text of a list of bytes. -/
def decodeEscaping (bytes : List UInt8) : RawText :=
  decodeEscapingFrom 0 bytes

/-- The wording of a flaw. -/
def Flaw.message : Flaw → String
  | .badStart => "invalid start byte"
  | .badContinuation => "invalid continuation byte"
  | .cutShort => "unexpected end of data"

/-- The wording of a decoding error: a single byte is shown, several are given
by their positions. -/
def Error.message (error : Error) : String :=
  let bytes :=
    if error.length = 1 then
      "byte 0x" ++ String.ofList (Text.hexDigits 2 error.byte.toNat) ++ " in position " ++
        toString error.position
    else
      "bytes in position " ++ toString error.position ++ "-" ++
        toString (error.position + error.length - 1)
  "'utf-8' codec can't decode " ++ bytes ++ ": " ++ error.flaw.message

end Palimpsest.Utf8

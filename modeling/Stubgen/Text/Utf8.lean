import Stubgen.Text.Basic

/-!
# UTF-8

Positions inside a text are counted in the bytes of its UTF-8 encoding, and
files hold bytes.  This module measures, cuts, encodes and decodes.  Decoding is
strict, or puts a replacement character in the place of bytes that are no text.
-/

namespace Stubgen

abbrev Bytes := List UInt8

namespace Text

def utf8Length (t : Text) : Nat := t.foldr (fun c n => c.utf8Size + n) 0

@[simp] theorem utf8Length_nil : utf8Length [] = 0 := rfl

@[simp] theorem utf8Length_cons (c : Char) (t : Text) :
    utf8Length (c :: t) = c.utf8Size + utf8Length t := rfl

@[simp] theorem utf8Length_append (s t : Text) :
    utf8Length (s ++ t) = utf8Length s + utf8Length t := by
  induction s with
  | nil => simp
  | cons c s ih =>
    rw [List.cons_append, utf8Length_cons, utf8Length_cons, ih, Nat.add_assoc]

/-- What is left of a text behind its first `n` bytes; `none` if the text is
shorter or the cut would go through a character. -/
def dropBytes? : Nat → Text → Option Text
  | 0, t => some t
  | _ + 1, [] => none
  | n + 1, c :: rest =>
    if c.utf8Size ≤ n + 1 then dropBytes? (n + 1 - c.utf8Size) rest else none

def encode (t : Text) : Bytes := t.flatMap String.utf8EncodeChar

/-- What stands at the start of some bytes: an encoded character, or a number of
bytes that start no character. -/
inductive Decoded
  | character (c : Char) (rest : Bytes)
  | invalid (rest : Bytes)

/-- What follows the character or the bytes that were passed over. -/
def Decoded.rest : Decoded → Bytes
  | character _ rest => rest
  | invalid rest => rest

/-- The bytes that may continue a character, as their bounds. -/
abbrev Continuation := UInt8 × UInt8

/-- What the first byte of a character gives: the leading bits of the code, and
the bounds of each byte that has to follow. -/
def lead? (b : UInt8) : Option (Nat × List Continuation) :=
  let tail : Continuation := (0x80, 0xBF)
  if b < 0x80 then some (b.toNat, [])
  else if b < 0xC2 then none
  else if b < 0xE0 then some (b.toNat - 0xC0, [tail])
  else if b = 0xE0 then some (0x0, [(0xA0, 0xBF), tail])
  else if b = 0xED then some (0xD, [(0x80, 0x9F), tail])
  else if b < 0xF0 then some (b.toNat - 0xE0, [tail, tail])
  else if b = 0xF0 then some (0, [(0x90, 0xBF), tail, tail])
  else if b < 0xF4 then some (b.toNat - 0xF0, [tail, tail, tail])
  else if b = 0xF4 then some (4, [(0x80, 0x8F), tail, tail])
  else none

/-- Reads the bytes that continue a character whose leading bits are `code`. -/
def readTail (code : Nat) : List Continuation → Bytes → Decoded
  | [], rest =>
    if h : code.isValidChar then .character (Char.ofNatAux code h) rest
    else .invalid rest
  | _ :: _, [] => .invalid []
  | (low, high) :: tails, b :: rest =>
    if low ≤ b && b ≤ high then
      readTail (code * 0x40 + (b.toNat - 0x80)) tails rest
    else .invalid (b :: rest)

/-- Reads the first character.  Where there is none, the longest beginning of an
encoded character is passed over, and at least one byte. -/
def decodeFirst (b : UInt8) (rest : Bytes) : Decoded :=
  match lead? b with
  | some (code, tails) => readTail code tails rest
  | none => .invalid rest

theorem length_readTail_le (code : Nat) (tails : List Continuation)
    (bytes : Bytes) :
    (readTail code tails bytes).rest.length ≤ bytes.length := by
  induction tails generalizing code bytes with
  | nil =>
    change (if h : code.isValidChar then
        Decoded.character (Char.ofNatAux code h) bytes
      else .invalid bytes).rest.length ≤ bytes.length
    by_cases hvalid : code.isValidChar
    · rw [dif_pos hvalid]
      exact Nat.le_refl _
    · rw [dif_neg hvalid]
      exact Nat.le_refl _
  | cons tail tails ih =>
    cases bytes with
    | nil => exact Nat.le_refl _
    | cons b rest =>
      change (if tail.1 ≤ b && b ≤ tail.2 then
          readTail (code * 0x40 + (b.toNat - 0x80)) tails rest
        else .invalid (b :: rest)).rest.length ≤ (b :: rest).length
      by_cases hfits : (tail.1 ≤ b && b ≤ tail.2) = true
      · rw [if_pos hfits]
        exact Nat.le_succ_of_le (ih _ _)
      · rw [if_neg hfits]
        exact Nat.le_refl _

/-- Reading the first character takes at least one byte. -/
theorem length_decodeFirst_le (b : UInt8) (rest : Bytes) :
    (decodeFirst b rest).rest.length ≤ rest.length := by
  unfold decodeFirst
  split
  · exact length_readTail_le _ _ _
  · exact Nat.le_refl _

/-- The characters that some bytes encode, where bytes that are no text become
`none`. -/
def decodeAll : Bytes → List (Option Char)
  | [] => []
  | b :: rest =>
    match _h : decodeFirst b rest with
    | .character c rest' => some c :: decodeAll rest'
    | .invalid rest' => none :: decodeAll rest'
termination_by bytes => bytes.length
decreasing_by
  all_goals
    have := length_decodeFirst_le b rest
    simp only [_h, Decoded.rest] at this
    simp only [List.length_cons]
    omega

/-- The text that some bytes encode, if they encode one. -/
def decode? (bytes : Bytes) : Option Text := (decodeAll bytes).mapM id

/-- The text that some bytes encode, with a replacement character for what is no
text. -/
def decodeLossy (bytes : Bytes) : Text :=
  (decodeAll bytes).map (·.getD (Char.ofNat 0xFFFD))

end Text
end Stubgen

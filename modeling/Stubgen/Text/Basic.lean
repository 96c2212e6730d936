/-!
# Text

The programs of this library read text from the front, one character at a time,
so text is a list of characters.  This module holds what every reader needs:
blank characters, trimming, words, lines, and the search for a piece of text
inside another.
-/

namespace Stubgen

abbrev Text := List Char

namespace Text

/-- The characters that separate words: Unicode's `White_Space` property. -/
def isBlank (c : Char) : Bool :=
  let n := c.toNat
  (9 ≤ n && n ≤ 13) || n == 0x20 || n == 0x85 || n == 0xA0 || n == 0x1680 ||
    (0x2000 ≤ n && n ≤ 0x200A) || n == 0x2028 || n == 0x2029 || n == 0x202F ||
    n == 0x205F || n == 0x3000

def trimStart (t : Text) : Text := t.dropWhile isBlank

/-- The text without the characters at its end that satisfy `p`. -/
def dropEndWhile (p : Char → Bool) (t : Text) : Text :=
  (t.reverse.dropWhile p).reverse

def trimEnd (t : Text) : Text := t.dropEndWhile isBlank

def trim (t : Text) : Text := trimEnd (trimStart t)

/-- Whether `piece` stands anywhere in a text. -/
def occursIn (piece : Text) : Text → Bool
  | [] => piece.isEmpty
  | c :: rest => piece.isPrefixOf (c :: rest) || occursIn piece rest

/-- What follows `label`, if the text starts with it. -/
def afterLabel? : (label t : Text) → Option Text
  | [], t => some t
  | _ :: _, [] => none
  | l :: ls, c :: rest => if l = c then afterLabel? ls rest else none

/-- The lines of a text.  A line feed ends a line, alone or after a carriage
return, and a last line that is not ended counts unless it is empty. -/
def lines : Text → List Text
  | [] => []
  | '\n' :: rest => [] :: lines rest
  | '\r' :: '\n' :: rest => [] :: lines rest
  | c :: rest =>
    match lines rest with
    | [] => [[c]]
    | line :: others => (c :: line) :: others

/-- The words of a text: its longest runs without a blank. -/
def words : Text → List Text
  | [] => []
  | c :: rest =>
    if isBlank c then words rest
    else
      match rest.head?.map isBlank, words rest with
      | some false, word :: others => (c :: word) :: others
      | _, others => [c] :: others

/-- What is left of a text that starts with a word behind its first `n` words
and the blanks that follow them. -/
def dropWords : Nat → Text → Text
  | 0, t => t
  | n + 1, t => dropWords n (trimStart (t.dropWhile fun c => !isBlank c))

/-- The texts of a list, with a separator between any two neighbours. -/
def joinWith (separator : Text) : List Text → Text
  | [] => []
  | [t] => t
  | t :: u :: rest => t ++ separator ++ joinWith separator (u :: rest)

def ofNat (n : Nat) : Text := (Nat.repr n).toList

/-- The number that a run of decimal digits spells, read on from `value`. -/
def foldDigits (value : Nat) (digits : Text) : Nat :=
  digits.foldl (fun n c => 10 * n + (c.toNat - '0'.toNat)) value

end Text
end Stubgen

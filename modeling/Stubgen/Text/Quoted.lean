import Stubgen.Unicode.Property

/-!
# Quotations

Text is quoted in messages between double quotes, with a backslash before a
quote and a backslash, short escapes for the usual control characters, and the
code of every other character that would not show.
-/

namespace Stubgen.Text

def hexDigit (n : Nat) : Char :=
  if n < 10 then Char.ofNat (0x30 + n) else Char.ofNat (0x57 + n)

/-- A number in base sixteen, in small letters and at least `width` digits. -/
def hexPadded (width n : Nat) : Text :=
  let digits := (Nat.toDigits 16 n).map fun c => c.toLower
  List.replicate (width - digits.length) '0' ++ digits

def quotedChar (c : Char) : Text :=
  if c = '"' || c = '\\' then ['\\', c]
  else if c = '\n' then "\\n".toList
  else if c = '\r' then "\\r".toList
  else if c = '\t' then "\\t".toList
  else if c.toNat = 0 then "\\0".toList
  else if CharProperty.printable.contains c then [c]
  else "\\u\x7b".toList ++ hexPadded 1 c.toNat ++ ['\x7d']

def quoted (t : Text) : Text := '"' :: t.flatMap quotedChar ++ ['"']

/-- A character of a word of a command.  Single quotes are escaped too, and
control characters by two digits. -/
def commandChar (c : Char) : Text :=
  if c = '\'' then "\\'".toList
  else if c.toNat < 0x20 ∧ c ≠ '\n' ∧ c ≠ '\r' ∧ c ≠ '\t' ∨ c.toNat = 0x7F then
    "\\x".toList ++ hexPadded 2 c.toNat
  else quotedChar c

def commandLine (command : List Text) : Text :=
  joinWith [' '] <| command.map fun word =>
    '"' :: word.flatMap commandChar ++ ['"']

end Stubgen.Text

import Stubgen.Text.Width

/-!
# Snippets

A snippet points at one character of a text and says what is wrong there.  It
shows the place, the line, a mark under the character, and the message behind
the mark, in the colours of a terminal.
-/

namespace Stubgen.Snippet

/-- The colours of a snippet, as the parameters of a terminal's colour
command. -/
inductive Colour
  | red
  | frame
  | faint
  | plain
  deriving DecidableEq, Repr

def Colour.code : Colour → Text
  | red => "31".toList
  | frame => "38;5;246".toList
  | faint => "38;5;240".toList
  | plain => "38;5;249".toList

/-- Text in a colour, with the command that ends the colour behind it. -/
def paint (colour : Colour) (t : Text) : Text :=
  '\x1b' :: '[' :: colour.code ++ ['m'] ++ t ++ "\x1b[0m".toList

def times (n : Nat) (c : Char) : Text := List.replicate n c

/-- The characters that end a line; a carriage return and a line feed end one
together. -/
def endsLine (c : Char) : Bool :=
  [0x0A, 0x0B, 0x0C, 0x0D, 0x85, 0x2028, 0x2029].contains c.toNat

/-- The lines of a text, each with the characters that end it. -/
def splitLines : Text → List Text
  | [] => []
  | '\r' :: '\n' :: rest => ['\r', '\n'] :: splitLines rest
  | c :: rest =>
    if endsLine c then [c] :: splitLines rest
    else
      match splitLines rest with
      | [] => [[c]]
      | line :: others => (c :: line) :: others

structure Place where
  row : Nat
  column : Nat
  line : Text
  deriving DecidableEq, Repr

/-- The place of the character number `at` of some lines: it lies in the last
line that starts at it or before it. -/
def locate (row at_ : Nat) : List Text → Place
  | [] => ⟨row, at_, []⟩
  | [line] => ⟨row, at_, line⟩
  | line :: rest =>
    if at_ < line.length then ⟨row, at_, line⟩
    else locate (row + 1) (at_ - line.length) rest

/-- The number of cells from a column to the next tab stop. -/
def tabCells (column : Nat) : Nat := 4 - column % 4

/-- The number of cells that the character in a column is drawn with. -/
def cells (column : Nat) (c : Char) : Nat :=
  if c = '\t' then tabCells column
  else if Text.isBlank c then 1
  else Text.displayWidth c

/-- The number of cells of a column of a line; behind the end of the line a
column has one. -/
def columnCells (row : Text) (column : Nat) : Nat :=
  match row[column]? with
  | some c => cells column c
  | none => 1

/-- A character as it is drawn: blanks are drawn as spaces, one for each
cell. -/
def drawCharacter (colour : Colour) (column : Nat) (c : Char) : Text :=
  if Text.isBlank c then
    (List.replicate (cells column c) (paint colour [' '])).flatten
  else paint colour [c]

def drawLine (marked : Nat) (line : Text) : Text :=
  (line.zipIdx.map fun (c, column) =>
    drawCharacter (if column = marked then .red else .plain) column c).flatten

/-- A mark that is `first` in its first cell and a dash in the others. -/
def drawMark (first : Char) : (cells : Nat) → Text
  | 0 => []
  | n + 1 => paint .red [first] ++ (List.replicate n (paint .red ['─'])).flatten

/-- What is drawn in the columns before the mark and, without the arrow, behind
it. -/
def gap (line : Text) (columns : List Nat) : Text :=
  columns.flatMap fun column => times (columnCells line column) ' '

def markRow (line : Text) (marked : Nat) : Text :=
  gap line (List.range marked) ++ drawMark '┬' (columnCells line marked) ++
    gap line [marked + 1, marked + 2]

/-- The row of the message: an arrow from the mark to the right, and the
message. -/
def messageRow (line : Text) (marked : Nat) (message : Text) : Text :=
  gap line (List.range marked) ++ drawMark '╰' (columnCells line marked) ++
    drawMark '─' (columnCells line (marked + 1)) ++
    drawMark '─' (columnCells line (marked + 2)) ++ [' '] ++ message

/-- The snippet of the character number `at_` of a text that goes by `name`,
under a title.  Behind the end of the text there is no line to show, and further
behind not even a place. -/
def render (title name message source : Text) (at_ : Nat) : Text :=
  let header := paint .red "Error:".toList ++ [' '] ++ title ++ ['\n']
  if source.length < at_ then header
  else
    let place := locate 0 at_ (splitLines source)
    let number := Text.ofNat (place.row + 1)
    let margin := times (number.length + 2) ' '
    let marginRow (row : Text) : Text :=
      ' ' :: paint .faint (times (number.length + 1) ' ' ++ ['│']) ++
        ' ' :: row ++ ['\n']
    let line := Text.trimEnd place.line
    header ++
      margin ++ paint .frame ['╭'] ++ paint .frame ['─'] ++
      paint .frame ['['] ++ name ++
      ':' :: number ++ ':' :: Text.ofNat (place.column + 1) ++
      paint .frame [']'] ++ ['\n'] ++ margin ++ paint .frame ['│'] ++ ['\n'] ++
      (if at_ = source.length then marginRow []
      else
        ' ' :: paint .frame (number ++ " │".toList) ++
          ' ' :: drawLine place.column line ++ ['\n'] ++
          marginRow (markRow line place.column) ++
          marginRow (messageRow line place.column message)) ++
      paint .frame (times (number.length + 2) '─' ++ ['╯']) ++ ['\n']

end Stubgen.Snippet

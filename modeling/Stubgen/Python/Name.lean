import Stubgen.Text.Basic

/-!
# Python names

A camel case name becomes a name in lower case with underscores, and a name that
is a keyword of Python gets an underscore behind it.
-/

namespace Stubgen.Python

/-- What a character becomes: an ASCII capital becomes an underscore and the
small letter. -/
def snakeChar (c : Char) : Text := if c.isUpper then ['_', c.toLower] else [c]

/-- A name in lower case, with an underscore before every letter that was a
capital. -/
def snakeCase (name : Text) : Text := name.flatMap snakeChar

/-- The keywords of Python that may be names elsewhere. -/
def keywords : List Text :=
  ["False", "None", "True", "and", "as", "async", "await", "def", "del", "elif",
    "except", "from", "global", "in", "is", "lambda", "nonlocal", "not", "or",
    "pass", "raise", "with", "yield"].map String.toList

/-- The identifier of a name: its snake case, which must not be a keyword. -/
def identifier (name : Text) : Text :=
  if keywords.contains (snakeCase name) then snakeCase name ++ ['_']
  else snakeCase name

end Stubgen.Python

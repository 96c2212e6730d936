import Stubgen.Descriptor.Basic

/-!
# Decoding descriptors

A method descriptor is a list of argument types in round brackets and a return
type; a field descriptor is one type.  A type is any number of array brackets
and then a class name between `L` and `;`, or any one other character.
-/

namespace Stubgen.Descriptor

abbrev TypeAndRest := TypeName × Text

/-- Reads the type at the start of a text that stands at byte `pos` of the
descriptor. -/
def readType (pos : Nat) (t : Text) : Except Fault TypeAndRest :=
  let brackets := t.takeWhile (· = '[')
  let array := !brackets.isEmpty
  match t.dropWhile (· = '[') with
  | [] => .error (.danglingArray pos)
  | 'L' :: rest =>
    match rest.dropWhile (· ≠ ';') with
    | [] => .error (.unterminatedObject (pos + brackets.length))
    | _ :: after =>
      let name := rest.takeWhile (· ≠ ';')
      if name.isEmpty then .error (.emptyObjectName (pos + brackets.length))
      else .ok (⟨name, array⟩, after)
  | c :: rest => .ok (⟨[c], array⟩, rest)

/-- Reading a type takes at least one character. -/
theorem length_readType_lt {pos : Nat} {t : Text} {r : TypeAndRest}
    (h : readType pos t = .ok r) :
    r.2.length < t.length := by
  have hbody : (t.dropWhile (· = '[')).length ≤ t.length :=
    (List.dropWhile_suffix _).length_le
  unfold readType at h
  dsimp only at h
  split at h
  · cases h
  · rename_i rest hdrop
    rw [hdrop] at hbody
    have hname : (rest.dropWhile (· ≠ ';')).length ≤ rest.length :=
      (List.dropWhile_suffix _).length_le
    split at h
    · cases h
    · rename_i after hafter
      split at h
      · cases h
      · cases h
        rw [hafter] at hname
        simp only [List.length_cons] at hbody hname ⊢
        omega
  · rename_i c rest _ hdrop
    rw [hdrop] at hbody
    cases h
    simp only [List.length_cons] at hbody ⊢
    omega

/-- Reads all types of a text that stands at byte `pos` of the descriptor. -/
def readTypes (pos : Nat) (t : Text) : Except Fault (List TypeName) :=
  if t.isEmpty then .ok []
  else
    match _h : readType pos t with
    | .error fault => .error fault
    | .ok (type, rest) =>
      (readTypes (pos + (t.utf8Length - rest.utf8Length)) rest).map (type :: ·)
termination_by t.length
decreasing_by exact length_readType_lt _h

/-- Reads a text that stands at byte `pos` of the descriptor and is exactly one
type. -/
def readOnlyType (pos : Nat) (t : Text) : Except Fault TypeName :=
  match readType pos t with
  | .error fault => .error fault
  | .ok (type, []) => .ok type
  | .ok (_, rest) =>
    .error (.trailingInput (pos + (t.utf8Length - rest.utf8Length)))

/-- The type of a result, which stands at byte `pos` of the descriptor.  The
brackets of an array stay in its name, and so does everything but the `L` and
the `;` around the name of a class. -/
def decodeReturn (pos : Nat) (t : Text) : Except Fault (Option TypeName) :=
  if t.isEmpty then .error (.missingReturn pos)
  else if t = ['V'] then .ok none
  else
    let array := t.head? = some '['
    if t.contains ';' then
      if !t.contains 'L' then .error (.returnWithoutMarker pos)
      else
        (readOnlyType pos t).map fun _ =>
          some ⟨t.takeWhile (· ≠ 'L') ++
            ((t.dropWhile (· ≠ 'L')).drop 1).dropLast, array⟩
    else (readOnlyType pos t).map fun _ => some ⟨t, array⟩

/-- The type of the result that stands at byte `pos` of `raw`; `none` if no
character of `raw` starts there. -/
def decodeReturnAt? (raw : Text) (pos : Nat) :
    Option (Except Fault (Option TypeName)) :=
  (raw.dropBytes? pos).map (decodeReturn pos)

def decodeMethod (raw : Text) : Except Fault Signature :=
  match raw with
  | [] => .error .empty
  | '(' :: body =>
    match body.dropWhile (· ≠ ')') with
    | [] => .error (.missingCloseParen 0)
    | _ :: result => do
      let arguments : Text := body.takeWhile (· ≠ ')')
      let argTypes ← readTypes 1 arguments
      let returnType ← decodeReturn (arguments.utf8Length + 2) result
      return ⟨raw, argTypes, returnType⟩
  | _ => .error (.missingOpenParen 0)

def decodeField (raw : Text) : Except Fault TypeName :=
  if raw.isEmpty then .error .empty else readOnlyType 0 raw

end Stubgen.Descriptor

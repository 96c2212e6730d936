import Stubgen.Proofs.Descriptor.Decoding
import Stubgen.Proofs.Outcome
import Stubgen.Proofs.Text.Position
import Mathlib.Data.Nat.PSub

/-!
# Decoding at byte positions

The decoder of this module never cuts a descriptor up.  It carries a byte
position through the whole text, looks at single bytes where it tells the forms
of a type apart, and cuts out only the names that it returns.  All its bytes and
cuts are checked.  The statements say that none of the checks fails and that the
outcome is that of the decoder of texts.

A position is given by the text ahead of it, so every statement about a position
is a statement about a descriptor in parts.
-/

namespace Stubgen
namespace Descriptor

open Text

/-! ## The decoder -/

/-- The position behind the brackets that start at `pos`.  No byte is read at
`last` or behind it. -/
def skipBrackets? (raw : Text) (last pos : ℕ) : Option ℕ :=
  if pos < last then do
    let byte ← raw.byteAt? pos
    if byte = '['.toUInt8 then skipBrackets? raw last (pos + 1) else some pos
  else some pos
termination_by last - pos

/-- The type whose brackets stand from `start` to `pos`, and the position behind
it. -/
def elementAt (raw : Text) (start pos last : ℕ) :
    Checked Fault (TypeName × ℕ) := do
  let byte ← raw.byteAt? pos
  if byte = 'L'.toUInt8 then
    let behind ← raw.slice? (pos + 1) last
    match position? (· = ';') behind with
    | none => throw (.unterminatedObject pos)
    | some index =>
      let semicolon := pos + 1 + index
      if semicolon = pos + 1 then throw (.emptyObjectName pos)
      else
        let name ← raw.slice? (pos + 1) semicolon
        return (⟨name, decide (start < pos)⟩, semicolon + 1)
  else
    match ← raw.slice? pos last with
    | [] => throw (.danglingArray start)
    | c :: _ => return (⟨[c], decide (start < pos)⟩, pos + c.utf8Size)

/-- The type that stands between two positions, and the position behind it. -/
def typeAt (raw : Text) (start last : ℕ) : Checked Fault (TypeName × ℕ) := do
  let pos ← skipBrackets? raw last start
  if pos = last then throw (.danglingArray start)
  else elementAt raw start pos last

/-- The types from `pos` on until `close` is reached, and the position at which
the loop ends. -/
def typesAt (raw : Text) (close pos : ℕ) :
    Checked Fault (List TypeName × ℕ) :=
  if pos < close then do
    let (type, next) ← typeAt raw pos close
    if _h : pos < next then
      let (types, stop) ← typesAt raw close next
      return (type :: types, stop)
    else Checked.wrong
  else return ([], pos)
termination_by close - pos

/-- The one type from `pos` to the end. -/
def onlyTypeAt (raw : Text) (pos : ℕ) : Checked Fault TypeName := do
  let (type, next) ← typeAt raw pos raw.utf8Length
  if next = raw.utf8Length then return type else throw (.trailingInput next)

def returnAt (raw : Text) (pos : ℕ) : Checked Fault (Option TypeName) := do
  let result ← raw.dropBytes? pos
  if result.isEmpty then throw (.missingReturn pos)
  else if result = ['V'] then return none
  else
    let array := result.head? = some '['
    if result.contains ';' then
      match position? (· = 'L') result with
      | none => throw (.returnWithoutMarker pos)
      | some marker =>
        let _ ← onlyTypeAt raw pos
        let last ← result.utf8Length.psub 1
        let name ← result.slice? (marker + 1) last
        let brackets ← result.slice? 0 marker
        return some ⟨brackets ++ name, array⟩
    else
      let _ ← onlyTypeAt raw pos
      return some ⟨result, array⟩

def methodAt (raw : Text) : Checked Fault Signature :=
  if raw.isEmpty then throw .empty
  else if raw.head? = some '(' then
    match position? (· = ')') raw with
    | none => throw (.missingCloseParen 0)
    | some close => do
      let (argTypes, _) ← typesAt raw close 1
      let returnType ← returnAt raw (close + 1)
      return ⟨raw, argTypes, returnType⟩
  else throw (.missingOpenParen 0)

def fieldAt (raw : Text) : Checked Fault TypeName :=
  if raw.isEmpty then throw .empty else onlyTypeAt raw 0

/-! ## One type -/

theorem skipBrackets?_middle (a u b : Text) :
    skipBrackets? (a ++ (u ++ b)) (a.utf8Length + u.utf8Length) a.utf8Length =
      some (a.utf8Length + utf8Length (u.takeWhile (· = '['))) := by
  induction u generalizing a with
  | nil =>
      rw [skipBrackets?]
      simp
  | cons c u ih =>
      have hpos := c.utf8Size_pos
      have hbyte : byteAt? (a ++ (c :: u ++ b)) a.utf8Length =
          some (leadByte c) := byteAt?_append a c (u ++ b)
      have hlead : leadByte c = '['.toUInt8 ↔ c = '[' :=
        leadByte_eq_iff (by decide) c
      rw [skipBrackets?, if_pos (by rw [utf8Length_cons]; omega), hbyte]
      change (if leadByte c = '['.toUInt8 then _ else _) = _
      by_cases hc : c = '['
      · rw [if_pos (hlead.mpr hc)]
        have hstep := ih (a ++ [c])
        subst hc
        have hsize : '['.utf8Size = 1 := by decide
        simpa [hsize, Nat.add_assoc] using hstep
      · rw [if_neg (fun h => hc (hlead.mp h))]
        simp [hc]

theorem elementAt_code {c : Char} (hc : c ≠ 'L') (front rest b : Text)
    (start : ℕ) :
    elementAt (front ++ (c :: rest ++ b)) start front.utf8Length
        (front.utf8Length + utf8Length (c :: rest)) =
      .returns (.ok (⟨[c], decide (start < front.utf8Length)⟩,
        front.utf8Length + c.utf8Size)) := by
  have hbyte : byteAt? (front ++ (c :: rest ++ b)) front.utf8Length =
      some (leadByte c) := byteAt?_append front c (rest ++ b)
  have hmarker : leadByte c ≠ 'L'.toUInt8 := by
    rwa [ne_eq, leadByte_eq_iff (by decide) c]
  unfold elementAt
  rw [hbyte, Checked.liftM_some_bind, if_neg hmarker, slice?_middle,
    Checked.liftM_some_bind]
  rfl

section Object

variable (front b : Text) (start : ℕ)

theorem byteAt?_marker (behind : Text) :
    byteAt? (front ++ ('L' :: behind ++ b)) front.utf8Length =
      some 'L'.toUInt8 := by
  have hbyte := byteAt?_append front 'L' (behind ++ b)
  rwa [(leadByte_eq_iff (by decide) 'L').mpr rfl] at hbyte

theorem slice?_behind_marker (behind : Text) :
    slice? (front ++ ('L' :: behind ++ b)) (front.utf8Length + 1)
        (front.utf8Length + utf8Length ('L' :: behind)) = some behind := by
  have hsize : 'L'.utf8Size = 1 := by decide
  refine slice?_eq_some_iff.mpr ⟨front ++ ['L'], b, by simp, ?_, ?_⟩
  · simp [hsize]
  · simp [hsize, Nat.add_assoc]

theorem elementAt_unterminated {behind : Text} (hbehind : ';' ∉ behind) :
    elementAt (front ++ ('L' :: behind ++ b)) start front.utf8Length
        (front.utf8Length + utf8Length ('L' :: behind)) =
      .returns (.error (.unterminatedObject front.utf8Length)) := by
  have hnone : position? (· = ';') behind = none :=
    position?_char_eq_none_iff.mpr hbehind
  unfold elementAt
  rw [byteAt?_marker, Checked.liftM_some_bind, if_pos rfl,
    slice?_behind_marker, Checked.liftM_some_bind, hnone]
  rfl

theorem elementAt_object {name : Text} (hname : ';' ∉ name) (after : Text) :
    elementAt (front ++ ('L' :: (name ++ ';' :: after) ++ b)) start
        front.utf8Length
        (front.utf8Length + utf8Length ('L' :: (name ++ ';' :: after))) =
      .returns (if name.isEmpty then
          .error (.emptyObjectName front.utf8Length)
        else .ok (⟨name, decide (start < front.utf8Length)⟩,
          front.utf8Length + 1 + name.utf8Length + 1)) := by
  have hsome : position? (· = ';') (name ++ ';' :: after) =
      some name.utf8Length := position?_char hname after
  have hslice : slice? (front ++ ('L' :: (name ++ ';' :: after) ++ b))
      (front.utf8Length + 1) (front.utf8Length + 1 + name.utf8Length) =
        some name := by
    have hsize : 'L'.utf8Size = 1 := by decide
    exact slice?_eq_some_iff.mpr
      ⟨front ++ ['L'], ';' :: after ++ b, by simp, by simp [hsize], rfl⟩
  unfold elementAt
  rw [byteAt?_marker, Checked.liftM_some_bind, if_pos rfl,
    slice?_behind_marker, Checked.liftM_some_bind, hsome]
  dsimp only
  rw [hslice, Checked.liftM_some_bind]
  by_cases hname' : name = []
  · rw [if_pos (by simp [hname']), if_pos (by simp [hname'])]
    rfl
  · rw [if_neg (by simpa using hname'),
      if_neg (by simpa using hname')]
    rfl

end Object

/-- The reader of a type behind its brackets, which stand from `start` to `pos`. -/
def readElement (start pos : ℕ) : Text → Except Fault TypeAndRest
  | [] => .error (.danglingArray start)
  | 'L' :: behind =>
    match behind.dropWhile (· ≠ ';') with
    | [] => .error (.unterminatedObject pos)
    | _ :: after =>
      let name := behind.takeWhile (· ≠ ';')
      if name.isEmpty then .error (.emptyObjectName pos)
      else .ok (⟨name, decide (start < pos)⟩, after)
  | c :: behind => .ok (⟨[c], decide (start < pos)⟩, behind)

theorem utf8Length_replicate_bracket (k : ℕ) :
    utf8Length (List.replicate k '[') = k := by
  have hsize : '['.utf8Size = 1 := by decide
  induction k with
  | zero => rfl
  | succ k ih => rw [List.replicate_succ, utf8Length_cons, hsize, ih, Nat.add_comm]

theorem readType_eq_readElement (start : ℕ) (u : Text) :
    readType start u =
      readElement start (start + utf8Length (u.takeWhile (· = '[')))
        (u.dropWhile (· = '[')) := by
  have hopening := takeWhile_bracket u
  generalize (u.takeWhile (· = '[')).length = k at hopening
  have harray : (!(List.replicate k '[').isEmpty) =
      decide (start < start + k) := by
    cases k <;> simp
  unfold readType readElement
  rw [hopening, utf8Length_replicate_bracket]
  dsimp only
  rw [List.length_replicate, harray]
  rfl

/-- A reading of a text that ends at `last`, with what it left unread turned
into the position at which that starts. -/
def endingAt (last : ℕ) (r : TypeAndRest) : TypeName × ℕ :=
  (r.1, last - r.2.utf8Length)

theorem elementAt_middle (front b : Text) {body : Text} (hbody : body ≠ [])
    (start : ℕ) :
    elementAt (front ++ (body ++ b)) start front.utf8Length
        (front.utf8Length + body.utf8Length) =
      .returns ((readElement start front.utf8Length body).map
        (endingAt (front.utf8Length + body.utf8Length))) := by
  obtain ⟨c, behind, rfl⟩ := List.exists_cons_of_ne_nil hbody
  by_cases hc : c = 'L'
  · subst hc
    by_cases hsemicolon : ';' ∈ behind
    · obtain ⟨name, after, rfl, hname⟩ :=
        List.eq_append_cons_of_mem hsemicolon
      have hspan := decide_ne_of_notMem hname
      have hstops : Stops (· ≠ ';') (';' :: after) := by simp
      rw [elementAt_object front b start hname after, readElement,
        dropWhile_span hspan hstops, takeWhile_span hspan hstops]
      dsimp only
      split
      next => rfl
      next =>
        have hmarker : 'L'.utf8Size = 1 := by decide
        have hclosing : ';'.utf8Size = 1 := by decide
        have hnext : front.utf8Length + utf8Length ('L' :: (name ++ ';' :: after)) -
            utf8Length after = front.utf8Length + 1 + utf8Length name + 1 := by
          simp only [utf8Length_cons, utf8Length_append, hmarker, hclosing]
          omega
        rw [Except.map, endingAt, hnext]
    · rw [elementAt_unterminated front b start hsemicolon]
      have hdrop : behind.dropWhile (· ≠ ';') = [] :=
        List.dropWhile_eq_nil_iff.mpr (decide_ne_of_notMem hsemicolon)
      rw [readElement, hdrop]
      rfl
  · have hnext : front.utf8Length + utf8Length (c :: behind) -
        utf8Length behind = front.utf8Length + c.utf8Size := by
      rw [utf8Length_cons]
      omega
    rw [elementAt_code hc, readElement.eq_3 start _ c behind hc, Except.map,
      endingAt, hnext]

theorem typeAt_middle (a u b : Text) :
    typeAt (a ++ (u ++ b)) a.utf8Length (a.utf8Length + u.utf8Length) =
      .returns ((readType a.utf8Length u).map
        (endingAt (a.utf8Length + u.utf8Length))) := by
  unfold typeAt
  rw [skipBrackets?_middle, Checked.liftM_some_bind, readType_eq_readElement]
  -- The brackets go to the text ahead of the position.
  have hsplit : u.takeWhile (· = '[') ++ u.dropWhile (· = '[') = u :=
    List.takeWhile_append_dropWhile
  generalize u.takeWhile (· = '[') = brackets at hsplit ⊢
  generalize u.dropWhile (· = '[') = body at hsplit ⊢
  subst hsplit
  have hraw : a ++ (brackets ++ body ++ b) =
      (a ++ brackets) ++ (body ++ b) := by simp
  rw [hraw, utf8Length_append brackets, ← Nat.add_assoc, ← utf8Length_append]
  by_cases hbody : body = []
  · rw [if_pos (by simp [hbody]), hbody]
    rfl
  · rw [if_neg (by simpa using hbody), elementAt_middle _ _ hbody]

/-! ## The positions of the loop -/

theorem le_skipBrackets? {raw : Text} {last start pos : ℕ}
    (hskip : skipBrackets? raw last start = some pos) : start ≤ pos := by
  fun_induction skipBrackets? raw last start with
  | case1 start hlt ih =>
      obtain ⟨byte, hbyte, hskip⟩ := Option.bind_eq_some_iff.mp hskip
      split at hskip
      next =>
        have hbehind := ih hskip
        omega
      next =>
        cases hskip
        exact Nat.le_refl _
  | case2 start hge =>
      cases hskip
      exact Nat.le_refl _

theorem elementAt_advances {raw : Text} {start pos last next : ℕ}
    {type : TypeName}
    (hread : elementAt raw start pos last = .returns (.ok (type, next))) :
    pos < next ∧ next ≤ last := by
  obtain ⟨byte, _, hread⟩ := Checked.bind_eq_ok_iff.mp hread
  split at hread
  next =>
    obtain ⟨behind, hbehind, hread⟩ := Checked.bind_eq_ok_iff.mp hread
    rw [Checked.liftM_eq_ok_iff, slice?_eq_some_iff] at hbehind
    obtain ⟨_, _, _, _, hlast⟩ := hbehind
    split at hread
    next => cases hread
    next index hindex =>
      obtain ⟨span, c, rest, rfl, _, _, hspan⟩ := exists_span_of_position? hindex
      have hsize := c.utf8Size_pos
      rw [utf8Length_append, utf8Length_cons] at hlast
      dsimp only at hread
      split at hread
      next => cases hread
      next =>
        obtain ⟨name, _, hread⟩ := Checked.bind_eq_ok_iff.mp hread
        cases hread
        omega
  next =>
    obtain ⟨behind, hbehind, hread⟩ := Checked.bind_eq_ok_iff.mp hread
    rw [Checked.liftM_eq_ok_iff, slice?_eq_some_iff] at hbehind
    obtain ⟨_, _, _, _, hlast⟩ := hbehind
    cases behind with
    | nil => cases hread
    | cons c rest =>
        have hsize := c.utf8Size_pos
        rw [utf8Length_cons] at hlast
        cases hread
        omega

/-- Every type takes up at least one byte, and none beyond the end. -/
theorem typeAt_advances {raw : Text} {start last next : ℕ} {type : TypeName}
    (hread : typeAt raw start last = .returns (.ok (type, next))) :
    start < next ∧ next ≤ last := by
  obtain ⟨pos, hpos, hread⟩ := Checked.bind_eq_ok_iff.mp hread
  rw [Checked.liftM_eq_ok_iff] at hpos
  split at hread
  next => cases hread
  next =>
    obtain ⟨hlt, hle⟩ := elementAt_advances hread
    exact ⟨Nat.lt_of_le_of_lt (le_skipBrackets? hpos) hlt, hle⟩

theorem typesAt_of_typeAt {raw : Text} {close pos next : ℕ} {type : TypeName}
    (hread : typeAt raw pos close = .returns (.ok (type, next))) :
    typesAt raw close pos =
      typesAt raw close next >>= fun r => pure (type :: r.1, r.2) := by
  obtain ⟨hnext, hle⟩ := typeAt_advances hread
  rw [typesAt, if_pos (by omega), hread, Checked.returns_ok_bind]
  exact dif_pos hnext

/-- The induction follows the reader of texts; `a` is what stands ahead of the
position. -/
theorem typesAt_middle (a u b : Text) :
    typesAt (a ++ (u ++ b)) (a.utf8Length + u.utf8Length) a.utf8Length =
      .returns ((readTypes a.utf8Length u).map fun types =>
        (types, a.utf8Length + u.utf8Length)) := by
  generalize hpos : a.utf8Length = pos
  fun_induction readTypes pos u generalizing a with
  | case1 pos u hempty =>
      have hu : u = [] := by simpa using hempty
      rw [typesAt, hu]
      simp
      rfl
  | case2 pos u hempty fault hfault =>
      subst hpos
      have hlength : 0 < u.utf8Length := utf8Length_pos (by simpa using hempty)
      rw [typesAt, if_pos (by omega), typeAt_middle, hfault]
      rfl
  | case3 pos u hempty type rest hok ih =>
      subst hpos
      obtain ⟨t, _, rfl, _⟩ := exists_token_of_readType hok
      have hnext : a.utf8Length +
          (utf8Length (t.text ++ rest) - utf8Length rest) =
            utf8Length (a ++ t.text) := by
        rw [utf8Length_append, utf8Length_append, Nat.add_sub_cancel]
      have hlast : a.utf8Length + utf8Length (t.text ++ rest) =
          utf8Length (a ++ t.text) + utf8Length rest := by
        rw [utf8Length_append, utf8Length_append, Nat.add_assoc]
      have hraw : a ++ (t.text ++ rest ++ b) =
          (a ++ t.text) ++ (rest ++ b) := by simp
      have htype : typeAt (a ++ (t.text ++ rest ++ b)) a.utf8Length
          (a.utf8Length + utf8Length (t.text ++ rest)) =
            .returns (.ok (type, utf8Length (a ++ t.text))) := by
        rw [typeAt_middle, hok, Except.map, endingAt, hlast,
          Nat.add_sub_cancel]
      have hrest := ih (a ++ t.text) hnext.symm
      rw [hnext] at hrest ⊢
      rw [typesAt_of_typeAt htype, hraw, hlast, hrest]
      cases readTypes (utf8Length (a ++ t.text)) rest <;> rfl

/-! ## Whole descriptors -/

theorem onlyTypeAt_append (a u : Text) :
    onlyTypeAt (a ++ u) a.utf8Length =
      .returns (readOnlyType a.utf8Length u) := by
  have htype := typeAt_middle a u []
  rw [List.append_nil, ← utf8Length_append] at htype
  unfold onlyTypeAt readOnlyType
  rw [htype]
  cases hread : readType a.utf8Length u with
  | error fault => rfl
  | ok r =>
      obtain ⟨type, rest⟩ := r
      obtain ⟨t, _, rfl, _⟩ := exists_token_of_readType hread
      have hnext : utf8Length (a ++ (t.text ++ rest)) - utf8Length rest =
          a.utf8Length + (utf8Length (t.text ++ rest) - utf8Length rest) := by
        simp only [utf8Length_append]
        omega
      rw [Except.map, endingAt, Checked.returns_ok_bind]
      dsimp only
      cases rest with
      | nil => simp
      | cons c rest =>
          have hsize := c.utf8Size_pos
          have hlt : utf8Length (c :: rest) ≤
              utf8Length (a ++ (t.text ++ c :: rest)) := by
            simp only [utf8Length_append]
            omega
          rw [if_neg (by rw [utf8Length_cons] at hlt ⊢; omega), hnext]
          rfl

theorem fieldAt_eq (raw : Text) : fieldAt raw = .returns (decodeField raw) := by
  unfold fieldAt decodeField
  split
  next => rfl
  next => exact onlyTypeAt_append [] raw

/-- The marker of an object token, and the cuts around its name. -/
theorem Token.cuts_of_object {t : Token} {name : Text}
    (helement : t.element = .object name) :
    position? (· = 'L') t.text = some t.prefixText.utf8Length ∧
      t.text.utf8Length.psub 1 =
        some (t.prefixText.utf8Length + 1 + name.utf8Length) ∧
      slice? t.text (t.prefixText.utf8Length + 1)
        (t.prefixText.utf8Length + 1 + name.utf8Length) = some name ∧
      slice? t.text 0 t.prefixText.utf8Length = some t.prefixText := by
  have hmarker : 'L'.utf8Size = 1 := by decide
  have hclosing : ';'.utf8Size = 1 := by decide
  have htext : t.text = t.prefixText ++ 'L' :: (name ++ [';']) := by
    simp [Token.text, helement, Element.text]
  rw [htext]
  refine ⟨?_, ?_, ?_, ?_⟩
  · refine position?_char (fun hmem => ?_) (name ++ [';'])
    exact absurd (Token.mem_prefixText hmem) (by decide)
  · rw [Nat.psub_eq_some]
    simp [hmarker, hclosing]
    omega
  · exact slice?_eq_some_iff.mpr ⟨t.prefixText ++ ['L'], [';'], by simp,
      by simp [hmarker], rfl⟩
  · exact slice?_start _ _

theorem exists_object_of_marker {t : Token} (ht : t.element.IsLegible)
    (hmarker : 'L' ∈ t.text) : ∃ name, t.element = .object name := by
  cases helement : t.element with
  | object name => exact ⟨name, rfl⟩
  | code c =>
      rw [helement] at ht
      have hmem : 'L' ∈ t.prefixText ∨ 'L' = c := by
        simpa [Token.text, helement, Element.text] using hmarker
      rcases hmem with hprefix | hc
      · exact absurd (Token.mem_prefixText hprefix) (by decide)
      · exact absurd hc.symm ht.2

theorem returnAt_append (a u : Text) :
    returnAt (a ++ u) a.utf8Length =
      .returns (decodeReturn a.utf8Length u) := by
  unfold returnAt decodeReturn
  rw [dropBytes?_append, Checked.liftM_some_bind, onlyTypeAt_append]
  split
  next => rfl
  next =>
    split
    next => rfl
    next =>
      dsimp only
      split
      next =>
        by_cases hmarker : 'L' ∈ u
        · obtain ⟨marker, hsome⟩ :
              ∃ marker, position? (· = 'L') u = some marker := by
            rw [← Option.ne_none_iff_exists', ne_eq, position?_char_eq_none_iff]
            exact not_not.mpr hmarker
          rw [hsome, if_neg (by simpa using hmarker)]
          cases hread : readOnlyType a.utf8Length u with
          | error fault => rfl
          | ok type =>
              obtain ⟨t, ht, rfl, _⟩ := readOnlyType_eq_ok_iff.mp hread
              obtain ⟨name, helement⟩ := exists_object_of_marker ht hmarker
              obtain ⟨hposition, hlast, hname, hbrackets⟩ :=
                Token.cuts_of_object helement
              obtain ⟨htake, hdrop⟩ := Token.split_at_marker helement
              rw [hposition] at hsome
              cases hsome
              dsimp only
              rw [Checked.returns_ok_bind, hlast, Checked.liftM_some_bind, hname,
                Checked.liftM_some_bind, hbrackets, Checked.liftM_some_bind,
                htake, hdrop]
              simp [Except.map]
        · rw [position?_char_eq_none_iff.mpr hmarker, if_pos (by simpa using hmarker)]
          rfl
      next => cases readOnlyType a.utf8Length u <;> rfl

/-- A result is decoded at every position where a character starts or the text
ends, and at no other. -/
theorem run_returnAt (raw : Text) (pos : ℕ) :
    (returnAt raw pos).run = decodeReturnAt? raw pos := by
  unfold decodeReturnAt?
  cases hdrop : raw.dropBytes? pos with
  | none =>
      unfold returnAt
      rw [hdrop]
      rfl
  | some u =>
      obtain ⟨a, rfl, rfl⟩ := dropBytes?_eq_some_iff.mp hdrop
      rw [returnAt_append]
      rfl

/-- The loop over the arguments of a descriptor ends at the first closing
bracket. -/
theorem typesAt_arguments (arguments result : Text) :
    typesAt ('(' :: (arguments ++ ')' :: result)) (1 + arguments.utf8Length) 1 =
      .returns ((readTypes 1 arguments).map fun types =>
        (types, 1 + arguments.utf8Length)) := by
  have hopening : utf8Length ['('] = 1 := by decide
  have htypes := typesAt_middle ['('] arguments (')' :: result)
  rwa [hopening] at htypes

theorem returnAt_result (arguments result : Text) :
    returnAt ('(' :: (arguments ++ ')' :: result))
        (1 + arguments.utf8Length + 1) =
      .returns (decodeReturn (arguments.utf8Length + 2) result) := by
  have hopening : '('.utf8Size = 1 := by decide
  have hclosing : ')'.utf8Size = 1 := by decide
  have hraw : '(' :: (arguments ++ ')' :: result) =
      '(' :: (arguments ++ [')']) ++ result := by simp
  have hpos : 1 + arguments.utf8Length + 1 =
      utf8Length ('(' :: (arguments ++ [')'])) := by
    simp [hopening, hclosing, Nat.add_assoc]
  have htwo : arguments.utf8Length + 2 = 1 + arguments.utf8Length + 1 := by
    omega
  rw [htwo, hpos, hraw]
  exact returnAt_append _ result

theorem methodAt_eq (raw : Text) :
    methodAt raw = .returns (decodeMethod raw) := by
  unfold methodAt
  cases raw with
  | nil => rfl
  | cons c body =>
      rw [if_neg (by simp)]
      by_cases hc : c = '('
      · subst hc
        rw [if_pos (by rfl), decodeMethod]
        have hopening : '('.utf8Size = 1 := by decide
        by_cases hclosing : ')' ∈ body
        · obtain ⟨arguments, result, rfl, hnot⟩ :=
            List.eq_append_cons_of_mem hclosing
          have hspan := decide_ne_of_notMem hnot
          have hstops : Stops (· ≠ ')') (')' :: result) := by simp
          have hposition :
              position? (· = ')') ('(' :: arguments ++ ')' :: result) = _ :=
            position?_char (by simpa using hnot) result
          rw [utf8Length_cons, hopening, List.cons_append] at hposition
          rw [hposition, dropWhile_span hspan hstops,
            takeWhile_span hspan hstops]
          dsimp only
          rw [typesAt_arguments, returnAt_result]
          cases readTypes 1 arguments with
          | error fault => rfl
          | ok types =>
              cases decodeReturn (utf8Length arguments + 2) result <;> rfl
        · have hdrop : body.dropWhile (· ≠ ')') = [] :=
            List.dropWhile_eq_nil_iff.mpr (decide_ne_of_notMem hclosing)
          rw [position?_char_eq_none_iff.mpr (by simpa using hclosing), hdrop]
          rfl
      · rw [if_neg (by simpa using hc), decodeMethod.eq_3]
        · rfl
        · simp
        · simpa using hc

end Descriptor
end Stubgen

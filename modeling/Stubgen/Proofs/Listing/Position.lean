import Stubgen.Listing.Basic
import Stubgen.Proofs.Class.Position
import Stubgen.Proofs.Descriptor.Position
import Stubgen.Proofs.Listing.Declaration

/-!
# Reading listings at byte positions

The reader of this module cuts declaration lines at the positions that its
searches find, and counts the angle brackets that are open with a counter that
cannot go below zero.  All cuts and the counter are checked.  None of the checks
fails, and the outcome is that of the reader of texts.
-/

namespace Stubgen
namespace Listing

open Text

namespace Declaration

/-! ## The reader of declarations -/

/-- The part of a line that names the member, and whether the member is a
field. -/
def headAt (line : Text) : Checked Fault (Text × Bool) :=
  match position? (· = '(') line with
  | none => return (trim (dropEndWhile (· = ';') (trim line)), true)
  | some index => do
    let front ← line.slice? 0 index
    return (trim front, false)

/-- The first word of a text and the text behind it. -/
def firstWordAt (t : Text) : Checked Fault (Option (Text × Text)) :=
  if t.isEmpty then return none
  else
    match position? isBlank t with
    | none => return some (t, [])
    | some index => do
      let word ← t.slice? 0 index
      let behind ← t.dropBytes? index
      return some (word, trimStart behind)

/-- Whether one of the modifiers in front of a text is `static`, and the text
behind them. -/
def modifiersAt (isStatic : Bool) (t : Text) : Checked Fault (Bool × Text) := do
  match ← firstWordAt t with
  | none => return (isStatic, t)
  | some (word, behind) =>
    if modifiers.contains word then
      if _h : behind.length < t.length then
        modifiersAt (isStatic || decide (word = "static".toList)) behind
      else Checked.wrong
    else return (isStatic, t)
termination_by t.length

/-- The position of the bracket that closes the list in which a text stands
`depth` brackets deep. -/
def closingAt (depth pos : ℕ) : Text → Checked Fault (Option ℕ)
  | [] => return none
  | c :: rest =>
    if c = '<' then closingAt (depth + 1) (pos + c.utf8Size) rest
    else if c = '>' then do
      let outer ← depth.psub 1
      if outer = 0 then return some pos
      else closingAt outer (pos + c.utf8Size) rest
    else closingAt depth (pos + c.utf8Size) rest

def stripTypeParametersAt (t : Text) : Checked Fault Text :=
  if t.head? = some '<' then do
    match ← closingAt 0 0 t with
    | none => return t
    | some index =>
      let behind ← t.dropBytes? (index + 1)
      return trimStart behind
  else return t

def parseAt (line : Text) : Checked Fault (Option Declaration) := do
  let (head, isField) ← headAt line
  let (isStatic, behind) ← modifiersAt false head
  let rest ← stripTypeParametersAt behind
  return ofRest? isField isStatic rest

/-! ## Heads and modifiers -/

theorem headAt_eq (line : Text) :
    headAt line = .returns (.ok (head line, !line.contains '(')) := by
  unfold headAt
  by_cases hline : '(' ∈ line
  · obtain ⟨before, tail, rfl, hbefore⟩ := List.eq_append_cons_of_mem hline
    rw [position?_char hbefore, head_bracket hbefore]
    dsimp only
    rw [slice?_start, Checked.liftM_some_bind]
    simp
  · rw [position?_char_eq_none_iff.mpr hline, head_of_notMem hline]
    simp [hline]

theorem firstWordAt_eq {t : Text} (ht : t ≠ []) :
    firstWordAt t =
      .returns (.ok (some (t.takeWhile (fun c => !isBlank c),
        trimStart (t.dropWhile fun c => !isBlank c)))) := by
  unfold firstWordAt
  rw [if_neg (by simpa using ht)]
  cases hposition : position? isBlank t with
  | none =>
      have hword : ∀ c ∈ t, (!isBlank c) = true := by
        simpa using position?_eq_none_iff.mp hposition
      rw [List.takeWhile_eq_self_iff.mpr hword,
        List.dropWhile_eq_nil_iff.mpr hword]
      rfl
  | some index =>
      obtain ⟨span, c, rest, rfl, hspan, hc, rfl⟩ :=
        exists_span_of_position? hposition
      have hword : ∀ x ∈ span, (!isBlank x) = true := by simpa using hspan
      have hstops : Stops (fun x => !isBlank x) (c :: rest) := by simpa using hc
      dsimp only
      rw [slice?_start, Checked.liftM_some_bind, dropBytes?_append,
        Checked.liftM_some_bind, takeWhile_span hword hstops,
        dropWhile_span hword hstops]
      rfl

theorem length_trimStart_dropWhile_lt {t : Text} (hne : t ≠ [])
    (ht : Stops isBlank t) :
    (trimStart (t.dropWhile fun c => !isBlank c)).length < t.length := by
  cases t with
  | nil => contradiction
  | cons c t =>
      have hc : isBlank c = false := by simpa using ht
      rw [List.dropWhile_cons_of_pos (by simp [hc]), List.length_cons,
        Nat.lt_succ_iff]
      exact ((List.dropWhile_suffix _).trans (List.dropWhile_suffix _)).length_le

/-- The induction is on the length of the text; every modifier takes off a
word. -/
theorem modifiersAt_eq {t : Text} (ht : Stops isBlank t) (isStatic : Bool) :
    modifiersAt isStatic t =
      .returns (.ok (isStatic || (leading t).contains "static".toList,
        dropWords (leading t).length t)) := by
  induction hlength : t.length using Nat.strong_induction_on
    generalizing t isStatic with
  | _ n ih =>
      rw [modifiersAt]
      by_cases hne : t = []
      · subst hne
        simp [firstWordAt, leading, words, dropWords]
      · have hlt := length_trimStart_dropWhile_lt hne ht
        rw [firstWordAt_eq hne, Checked.returns_ok_bind, leading_eq hne ht]
        dsimp only
        by_cases hword : modifiers.contains (t.takeWhile fun c => !isBlank c) = true
        · have hstatic : ("static".toList == t.takeWhile fun c => !isBlank c) =
              decide ((t.takeWhile fun c => !isBlank c) = "static".toList) := by
            rw [Bool.eq_iff_iff, beq_iff_eq, decide_eq_true_iff, eq_comm]
          rw [if_pos hword, if_pos hword, dif_pos hlt,
            ih _ (hlength ▸ hlt) (stops_trimStart _) _ rfl, List.length_cons,
            dropWords, List.contains_cons, hstatic, Bool.or_assoc]
        · rw [if_neg hword, if_neg hword]
          simp [dropWords]

/-! ## Type parameters -/

/-- The search for the closing bracket ends where the reader of texts ends.  The
induction is on the text; the counter is positive all along. -/
theorem closingAt_eq {depth : ℕ} (hdepth : 0 < depth) (pos : ℕ) (t : Text) :
    (afterTypeParameters? depth t = none ∧
        closingAt depth pos t = .returns (.ok none)) ∨
      ∃ inside rest, t = inside ++ '>' :: rest ∧
        afterTypeParameters? depth t = some (trimStart rest) ∧
        closingAt depth pos t = .returns (.ok (some (pos + utf8Length inside))) := by
  induction t generalizing depth pos with
  | nil => exact Or.inl ⟨rfl, rfl⟩
  | cons c t ih =>
      -- A step that goes on at another depth.
      have hstep : ∀ inner : ℕ, 0 < inner →
          afterTypeParameters? depth (c :: t) = afterTypeParameters? inner t →
          closingAt depth pos (c :: t) =
            closingAt inner (pos + c.utf8Size) t →
          (afterTypeParameters? depth (c :: t) = none ∧
              closingAt depth pos (c :: t) = .returns (.ok none)) ∨
            ∃ inside rest, c :: t = inside ++ '>' :: rest ∧
              afterTypeParameters? depth (c :: t) = some (trimStart rest) ∧
              closingAt depth pos (c :: t) =
                .returns (.ok (some (pos + utf8Length inside))) := by
        intro inner hinner hafter hclosing
        rw [hafter, hclosing]
        rcases ih hinner (pos + c.utf8Size) with hnone | ⟨inside, rest, rfl, hrest⟩
        · exact Or.inl hnone
        · rw [Nat.add_assoc, ← utf8Length_cons] at hrest
          exact Or.inr ⟨c :: inside, rest, rfl, hrest⟩
      by_cases hopening : c = '<'
      · subst hopening
        exact hstep (depth + 1) (Nat.succ_pos depth) rfl rfl
      · by_cases hclosing : c = '>'
        · subst hclosing
          have hcounter : depth.psub 1 = some (depth - 1) :=
            Nat.psub_eq_some.mpr (by omega)
          by_cases hone : depth ≤ 1
          · refine Or.inr ⟨[], t, rfl, ?_, ?_⟩
            · rw [afterTypeParameters?, if_pos hone]
            · rw [closingAt, if_neg hopening, if_pos rfl, hcounter,
                Checked.liftM_some_bind, if_pos (by omega)]
              rfl
          · apply hstep (depth - 1) (by omega)
            · rw [afterTypeParameters?, if_neg hone]
            · rw [closingAt, if_neg hopening, if_pos rfl, hcounter,
                Checked.liftM_some_bind, if_neg (by omega)]
        · exact hstep depth hdepth
            (afterTypeParameters?.eq_4 depth c t hopening hclosing)
            (by rw [closingAt, if_neg hopening, if_neg hclosing])

theorem stripTypeParametersAt_eq (t : Text) :
    stripTypeParametersAt t = .returns (.ok (stripTypeParameters t)) := by
  unfold stripTypeParametersAt
  split
  next hhead =>
    obtain ⟨rest, rfl⟩ := List.head?_eq_some_iff.mp hhead
    have hopening : '<'.utf8Size = 1 := by decide
    have hfirst : closingAt 0 0 ('<' :: rest) = closingAt 1 1 rest := rfl
    rw [hfirst, stripTypeParameters]
    rcases closingAt_eq Nat.one_pos 1 rest with
      ⟨hafter, hclosing⟩ | ⟨inside, behind, rfl, hafter, hclosing⟩
    · rw [hclosing, hafter]
      rfl
    · have hdrop : dropBytes? (1 + utf8Length inside + 1)
          ('<' :: (inside ++ '>' :: behind)) = some behind := by
        have hclose : '>'.utf8Size = 1 := by decide
        refine dropBytes?_eq_some_iff.mpr
          ⟨'<' :: (inside ++ ['>']), by simp, ?_⟩
        simp [hopening, hclose, Nat.add_assoc]
      rw [hclosing, hafter, Checked.returns_ok_bind]
      dsimp only
      rw [hdrop, Checked.liftM_some_bind]
      rfl
  next hhead =>
    unfold stripTypeParameters
    split
    next => exact absurd rfl hhead
    next => rfl

theorem parseAt_eq (line : Text) :
    parseAt line = .returns (.ok (parse? line)) := by
  unfold parseAt
  rw [headAt_eq, Checked.returns_ok_bind]
  dsimp only
  rw [modifiersAt_eq (isTrimmed_head line).start, Checked.returns_ok_bind]
  dsimp only
  rw [stripTypeParametersAt_eq, Checked.returns_ok_bind, Bool.false_or,
    parse?_eq_ofHead?]
  rfl

end Declaration

/-! ## Members and classes -/

def memberAt (skips : Text → Bool) (declarationLine descriptorLine : Text) :
    Checked Fault (Option Member) :=
  match descriptorOf? descriptorLine with
  | none =>
    throw (.missingDescriptor (trim declarationLine) (trim descriptorLine))
  | some descriptor => do
    match ← Declaration.parseAt declarationLine with
    | none => throw (.emptyDeclaration (trim declarationLine))
    | some d =>
      let malformed := Fault.malformedDescriptor d.name descriptor
      if skips d.name then return none
      else if d.isField then
        let type ← (Descriptor.fieldAt descriptor).adapt malformed
        return some (.field ⟨d.name, type, d.isStatic⟩)
      else
        let signature ← (Descriptor.methodAt descriptor).adapt malformed
        return some (.method ⟨d.name, d.isConstructor, d.isStatic, false, signature⟩)

/-- The lines two at a time, and the last one alone if it has no partner. -/
def groups : List Text → List (List Text)
  | [] => []
  | [line] => [[line]]
  | declarationLine :: descriptorLine :: rest =>
    [declarationLine, descriptorLine] :: groups rest

def membersAt (skips : Text → Bool) :
    List (List Text) → Checked Fault (List Member)
  | [] => return []
  | [declarationLine, descriptorLine] :: rest => do
    let member ← memberAt skips declarationLine descriptorLine
    let members ← membersAt skips rest
    return member.toList ++ members
  | group :: _ => do
    let line ← (group[0]? : Option Text)
    throw (.unpairedLine (trim line))

def parseAt (skips : Text → Bool) (classname text : Text) :
    Checked Fault Class := do
  let members ← membersAt skips (groups (cleanLines text))
  Class.inferProperties? ⟨classname, methodsOf members, fieldsOf members, []⟩

theorem memberAt_eq (skips : Text → Bool) (declarationLine descriptorLine : Text) :
    memberAt skips declarationLine descriptorLine =
      .returns (readMember skips declarationLine descriptorLine) := by
  unfold memberAt readMember
  cases descriptorOf? descriptorLine with
  | none => rfl
  | some descriptor =>
      dsimp only
      rw [Declaration.parseAt_eq, Checked.returns_ok_bind]
      cases Declaration.parse? declarationLine with
      | none => rfl
      | some d =>
          dsimp only
          split
          next => rfl
          next =>
            split
            next =>
              rw [Descriptor.fieldAt_eq]
              cases Descriptor.decodeField descriptor <;> rfl
            next =>
              rw [Descriptor.methodAt_eq]
              cases Descriptor.decodeMethod descriptor <;> rfl

theorem membersAt_groups (skips : Text → Bool) (ls : List Text) :
    membersAt skips (groups ls) = .returns (readMembers skips ls) := by
  induction ls using groups.induct with
  | case1 => rfl
  | case2 line => rfl
  | case3 declarationLine descriptorLine rest ih =>
      rw [groups, membersAt, memberAt_eq, ih, readMembers]
      cases readMember skips declarationLine descriptorLine with
      | error fault => rfl
      | ok member => cases readMembers skips rest <;> rfl

theorem parseAt_eq (skips : Text → Bool) (classname text : Text) :
    parseAt skips classname text = .returns (parse skips classname text) := by
  unfold parseAt parse parseMembers
  rw [membersAt_groups]
  cases readMembers skips (cleanLines text) with
  | error fault => rfl
  | ok members =>
      rw [Checked.returns_ok_bind, Class.inferProperties?_eq]
      rfl

end Listing
end Stubgen

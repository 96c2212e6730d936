import Stubgen.Listing.Report
import Stubgen.Proofs.Descriptor.Faults
import Stubgen.Proofs.Snippet

/-!
# Faults that are drawn

A fault carries the number of bytes ahead of it, and the snippet that is drawn
for it counts characters.  The two agree as long as every character ahead of the
fault is ASCII.  Behind any other character the snippet points too far to the
right, and past the end of the descriptor it has no room for the message.
-/

namespace Stubgen
namespace Descriptor

open Text Snippet

/-! ## Faults between characters -/

/-- The fault lies between two characters of a text that stands at `start`. -/
def Fault.LiesIn (start : ℕ) (u : Text) (f : Fault) : Prop :=
  ∃ ahead behind, u = ahead ++ behind ∧ f.pos = start + utf8Length ahead

theorem Fault.liesIn_start {start : ℕ} {f : Fault} (hpos : f.pos = start)
    (u : Text) : f.LiesIn start u :=
  ⟨[], u, rfl, hpos⟩

theorem Fault.LiesIn.append {start : ℕ} {u : Text} {f : Fault}
    (h : f.LiesIn start u) (t : Text) : f.LiesIn start (u ++ t) := by
  obtain ⟨ahead, behind, rfl, hpos⟩ := h
  exact ⟨ahead, behind ++ t, List.append_assoc _ _ _, hpos⟩

theorem Fault.LiesIn.prepend {start : ℕ} {s u : Text} {f : Fault}
    (h : f.LiesIn (start + utf8Length s) u) : f.LiesIn start (s ++ u) := by
  obtain ⟨ahead, behind, rfl, hpos⟩ := h
  refine ⟨s ++ ahead, behind, (List.append_assoc _ _ _).symm, ?_⟩
  rw [hpos, utf8Length_append, Nat.add_assoc]

theorem Lacks.liesIn {start : ℕ} {u : Text} {f : Fault} (h : Lacks start u f) :
    f.LiesIn start u := by
  have helement : ∀ f : Fault, f.pos = elementPos start u → f.LiesIn start u :=
    fun _ hpos => ⟨_, _, List.takeWhile_append_dropWhile.symm, hpos⟩
  cases h with
  | element => exact Fault.liesIn_start rfl u
  | name => exact helement _ rfl
  | ending => exact helement _ rfl

theorem SpoilsResult.liesIn {start : ℕ} {result : Text} {f : Fault}
    (h : SpoilsResult start result f) : f.LiesIn start result := by
  cases h with
  | missing => exact Fault.liesIn_start rfl result
  | unmarked => exact Fault.liesIn_start rfl result
  | token _ _ h => exact h.liesIn
  | trailing _ _ t rest _ htext => exact ⟨t.text, rest, htext, rfl⟩

theorem liesIn_of_decodeField {raw : Text} {f : Fault}
    (h : decodeField raw = .error f) : f.LiesIn 0 raw := by
  unfold decodeField at h
  split at h
  next =>
    cases h
    exact Fault.liesIn_start rfl raw
  next =>
    rcases readOnlyType_eq_error_iff.mp h with hlacks |
      ⟨t, rest, _, htext, _, rfl⟩
    · exact hlacks.liesIn
    · exact ⟨t.text, rest, htext, rfl⟩

theorem liesIn_of_decodeMethod_closed {arguments result : Text} {f : Fault}
    (hclosing : ')' ∉ arguments)
    (h : decodeMethod ('(' :: (arguments ++ ')' :: result)) = .error f) :
    f.LiesIn 0 ('(' :: (arguments ++ ')' :: result)) := by
  have hopening : utf8Length ['('] = 1 := by decide
  rcases (decodeMethod_closed_eq_error_iff hclosing result).mp h with
    htypes | ⟨_, hresult⟩
  · obtain ⟨tokens, rest, _, rfl, hlacks⟩ := exists_lacks_of_readTypes htypes
    have hlies := hlacks.liesIn.prepend.append (')' :: result)
    rw [← hopening, ← Nat.zero_add (utf8Length ['('])] at hlies
    exact hlies.prepend
  · have hlies := (decodeReturn_eq_error_iff.mp hresult).liesIn
    rw [← Nat.zero_add (utf8Length _)] at hlies
    simpa using hlies.prepend

theorem liesIn_of_decodeMethod {raw : Text} {f : Fault}
    (h : decodeMethod raw = .error f) : f.LiesIn 0 raw := by
  cases hasBrackets_of_decodeMethod h with
  | empty => exact Fault.liesIn_start rfl raw
  | unopened => exact Fault.liesIn_start rfl raw
  | unclosed => exact Fault.liesIn_start rfl raw
  | both hopening hclosing =>
      obtain ⟨body, rfl⟩ : ∃ body, raw = '(' :: body :=
        List.head?_eq_some_iff.mp hopening
      have hbody : ')' ∈ body := by simpa using hclosing
      obtain ⟨arguments, result, rfl, hnot⟩ := List.eq_append_cons_of_mem hbody
      exact liesIn_of_decodeMethod_closed hnot h

/-! ## Snippets of faults -/

/-- The place of a character of a descriptor, counted from one. -/
def placeText (column : ℕ) : Text :=
  "descriptor".toList ++ ':' :: ofNat 1 ++ ':' :: ofNat column

theorem placeText_inj {m n : ℕ} : placeText m = placeText n ↔ m = n := by
  refine ⟨fun h => ?_, congrArg placeText⟩
  exact ofNat_inj.mp (List.tail_eq_of_cons_eq (List.append_cancel_left h))

/-- The number of the character that a fault is behind `ahead`; at the end it is
the last character. -/
def columnBehind (ahead behind : Text) : ℕ :=
  if behind = [] then ahead.length else ahead.length + 1

/-- The number of bytes ahead of the character that is asked for. -/
def askedByte (f : Fault) (raw : Text) : ℕ := min f.pos (utf8Length raw - 1)

/-- What is drawn says what is wrong, and points there. -/
structure PointsBehind (ahead behind : Text) (f : Fault) : Prop where
  message : occursIn f.message (f.render (ahead ++ behind)) = true
  cites : citedPlace? (f.render (ahead ++ behind)) =
    some (placeText (columnBehind ahead behind))

/-- What is drawn for a fault behind `ahead`, where bytes count as characters. -/
structure CountsBytes (ahead behind : Text) (f : Fault) : Prop where
  pos : f.pos = utf8Length ahead
  cites : citedPlace? (f.render (ahead ++ behind)) =
    if askedByte f (ahead ++ behind) ≤ (ahead ++ behind).length then
      some (placeText (askedByte f (ahead ++ behind) + 1))
    else none
  message : occursIn f.message (f.render (ahead ++ behind)) = true ↔
    askedByte f (ahead ++ behind) < (ahead ++ behind).length
  points : PointsBehind ahead behind f ↔ ∀ c ∈ ahead, c.toNat < 128

theorem render_of_ne_nil {raw : Text} (hne : raw ≠ []) (f : Fault) :
    f.render raw = render "malformed descriptor".toList "descriptor".toList
      f.message raw (askedByte f raw) := by
  rw [Fault.render]
  exact if_neg (by simpa using hne)

theorem citedPlace?_fault {raw : Text} (hne : raw ≠ [])
    (hline : IsOneLine raw) (f : Fault) :
    citedPlace? (f.render raw) =
      if askedByte f raw ≤ raw.length then
        some (placeText (askedByte f raw + 1))
      else none := by
  rw [render_of_ne_nil hne, citedPlace?_render (by decide) (by decide),
    splitLines_of_isOneLine hne hline]
  simp only [← Nat.not_le, ite_not]
  rfl

/-- Every message has a letter that is neither in the title nor in the name nor
in the frame. -/
theorem Fault.letter_mem_message (f : Fault) :
    'g' ∈ f.message ∨ 'x' ∈ f.message ∨ 'y' ∈ f.message := by
  cases f with
  | empty => exact .inr (.inr (by decide))
  | missingOpenParen =>
      exact .inr (.inl (List.mem_append_left _ (by decide)))
  | missingCloseParen => exact .inl (List.mem_append_left _ (by decide))
  | unterminatedObject =>
      exact .inr (.inr (List.mem_append_right _ (by decide)))
  | emptyObjectName =>
      exact .inr (.inr (List.mem_append_right _ (by decide)))
  | danglingArray =>
      exact .inr (.inr (List.mem_append_right _ (by decide)))
  | missingReturn => exact .inl (List.mem_append_left _ (by decide))
  | returnWithoutMarker =>
      refine .inr (.inr (List.mem_append_left _ ?_))
      exact List.mem_append_left _ (by decide)
  | trailingInput => exact .inr (.inl (List.mem_append_left _ (by decide)))

theorem Fault.not_occurs_of_wording {t : Text}
    (ht : wording t ⊆ "malformed descriptor".toList) (f : Fault) :
    ¬ f.message <:+: t := by
  intro hmessage
  have hletter : ∀ c ∈ f.message, isFurniture c = false →
      c ∈ "malformed descriptor".toList := by
    intro c hc hother
    refine ht (List.mem_filter.mpr ⟨hmessage.subset hc, ?_⟩)
    rw [hother, Bool.not_false]
  rcases f.letter_mem_message with h | h | h
  · exact absurd (hletter _ h (by decide)) (by decide)
  · exact absurd (hletter _ h (by decide)) (by decide)
  · exact absurd (hletter _ h (by decide)) (by decide)

/-- The message is drawn if the character that is asked for exists. -/
theorem occursIn_fault {raw : Text} (hne : raw ≠ []) (f : Fault) :
    occursIn f.message (f.render raw) = true ↔ askedByte f raw < raw.length := by
  rw [occursIn_iff, render_of_ne_nil hne]
  constructor
  · intro hmessage
    by_contra hend
    refine f.not_occurs_of_wording ?_ hmessage
    rw [wording_render (Nat.le_of_not_lt hend)]
    split
    next => decide
    next => decide
  · exact message_infix_render

theorem pointsBehind_iff_askedByte {ahead behind : Text} {f : Fault}
    (hne : ahead ++ behind ≠ [])
    (hline : IsOneLine (ahead ++ behind)) :
    PointsBehind ahead behind f ↔
      askedByte f (ahead ++ behind) < (ahead ++ behind).length ∧
        askedByte f (ahead ++ behind) + 1 = columnBehind ahead behind := by
  have hmessage := occursIn_fault hne f
  have hcites := citedPlace?_fault hne hline f
  constructor
  · intro h
    have hlt := hmessage.mp h.message
    rw [if_pos hlt.le, h.cites] at hcites
    exact ⟨hlt, (placeText_inj.mp (Option.some.inj hcites)).symm⟩
  · rintro ⟨hlt, hcolumn⟩
    rw [if_pos hlt.le, hcolumn] at hcites
    exact ⟨hmessage.mpr hlt, hcites⟩

theorem pointsBehind_iff {ahead behind : Text} {f : Fault}
    (hne : ahead ++ behind ≠ [])
    (hline : IsOneLine (ahead ++ behind))
    (hpos : f.pos = utf8Length ahead) :
    PointsBehind ahead behind f ↔ ∀ c ∈ ahead, c.toNat < 128 := by
  have hahead := length_le_utf8Length ahead
  have hbehind := length_le_utf8Length behind
  rw [pointsBehind_iff_askedByte hne hline, ← utf8Length_eq_length_iff,
    askedByte, hpos, utf8Length_append, List.length_append, columnBehind]
  by_cases hend : behind = []
  · subst hend
    have hpositive : 0 < ahead.length :=
      List.length_pos_iff.mpr (by simpa using hne)
    simp only [if_pos, utf8Length_nil, List.length_nil]
    omega
  · have hpositive : 0 < behind.length := List.length_pos_iff.mpr hend
    rw [if_neg hend]
    omega

/-- Bytes are taken for characters, so a fault is pointed at exactly if the text
ahead of it is ASCII. -/
theorem render_countsBytes {raw : Text} {f : Fault} (hne : raw ≠ [])
    (hline : IsOneLine raw)
    (h : decodeMethod raw = .error f ∨ decodeField raw = .error f) :
    ∃ ahead behind, raw = ahead ++ behind ∧ CountsBytes ahead behind f := by
  have hlies : f.LiesIn 0 raw :=
    h.elim liesIn_of_decodeMethod liesIn_of_decodeField
  obtain ⟨ahead, behind, rfl, hpos⟩ := hlies
  rw [Nat.zero_add] at hpos
  exact ⟨ahead, behind, rfl, hpos, citedPlace?_fault hne hline f,
    occursIn_fault hne f, pointsBehind_iff hne hline hpos⟩

theorem unendedString_countsBytes :
    decodeMethod "(Ljava/lang/String)V".toList =
        .error (.unterminatedObject 1) ∧
      ∃ ahead behind, "(Ljava/lang/String)V".toList = ahead ++ behind ∧
        CountsBytes ahead behind (.unterminatedObject 1) :=
  ⟨by decide +kernel,
    render_countsBytes (by decide) (by decide) (.inl (by decide +kernel))⟩

/-- Behind a class name with one character of two bytes, the snippet points past
the end and is silent about the fault. -/
theorem trailingInput_drawn_past_end :
    decodeField "Ldemo/É;I".toList = .error (.trailingInput 9) ∧
      utf8Length "Ldemo/É;".toList = 9 ∧
      citedPlace? (Fault.render (.trailingInput 9) "Ldemo/É;I".toList) =
        some (placeText 10) ∧
      occursIn (Fault.message (.trailingInput 9))
        (Fault.render (.trailingInput 9) "Ldemo/É;I".toList) = false ∧
      ¬ PointsBehind "Ldemo/É;".toList "I".toList (.trailingInput 9) := by
  have hsilent : occursIn (Fault.message (.trailingInput 9))
      (Fault.render (.trailingInput 9) "Ldemo/É;I".toList) = false := by
    decide +kernel
  refine ⟨by decide +kernel, by decide, by decide +kernel, hsilent, ?_⟩
  intro h
  have hmessage := h.message
  have hraw : "Ldemo/É;".toList ++ "I".toList = "Ldemo/É;I".toList := by decide
  rw [hraw, hsilent] at hmessage
  cases hmessage

end Descriptor
end Stubgen

import Stubgen.Proofs.Descriptor.Faults

/-!
# One token, three decoders

A token may stand alone, among the arguments of a method, or behind them.  The
three decoders accept the same tokens and take the same type from them, but for
two: a result that is `V` has no type, and one that is a `;`, in brackets or
not, is refused.  The decoder of a result cuts the name out of the text on its
own; the statements say that it gets what the reader of a token gets, wherever
the result stands.
-/

namespace Stubgen
namespace Descriptor

open Text

/-! ## Positions -/

/-- The fault of the same text behind `n` more bytes. -/
def Fault.shift (n : ℕ) : Fault → Fault
  | .empty => .empty
  | .missingOpenParen pos => .missingOpenParen (n + pos)
  | .missingCloseParen pos => .missingCloseParen (n + pos)
  | .unterminatedObject pos => .unterminatedObject (n + pos)
  | .emptyObjectName pos => .emptyObjectName (n + pos)
  | .danglingArray pos => .danglingArray (n + pos)
  | .missingReturn pos => .missingReturn (n + pos)
  | .returnWithoutMarker pos => .returnWithoutMarker (n + pos)
  | .trailingInput pos => .trailingInput (n + pos)

theorem Lacks.shift {start : ℕ} {u : Text} {f : Fault} (h : Lacks start u f)
    (n : ℕ) : Lacks (n + start) u (f.shift n) := by
  have hpos : n + elementPos start u = elementPos (n + start) u :=
    (Nat.add_assoc _ _ _).symm
  cases h with
  | element hbody => exact .element hbody
  | name after hbody =>
      rw [Fault.shift, hpos]
      exact .name after hbody
  | ending behind hbody hending =>
      rw [Fault.shift, hpos]
      exact .ending behind hbody hending

theorem SpoilsResult.shift {start : ℕ} {result : Text} {f : Fault}
    (h : SpoilsResult start result f) (n : ℕ) :
    SpoilsResult (n + start) result (f.shift n) := by
  cases h with
  | missing h => exact .missing h
  | unmarked h => exact .unmarked h
  | token hne hmarked h => exact .token hne hmarked (h.shift n)
  | trailing hne hmarked t rest ht htext hrest =>
      rw [Fault.shift, ← Nat.add_assoc]
      exact .trailing hne hmarked t rest ht htext hrest

/-- Where a result stands matters to the positions of its faults only. -/
theorem decodeReturn_shift (n start : ℕ) (result : Text) :
    decodeReturn (n + start) result =
      (decodeReturn start result).mapError (Fault.shift n) := by
  cases hdecode : decodeReturn start result with
  | error f =>
      exact decodeReturn_eq_error_iff.mpr
        ((decodeReturn_eq_error_iff.mp hdecode).shift n)
  | ok type =>
      obtain ⟨t, ht, rfl⟩ := exists_token_of_decodeReturn hdecode
      rw [decodeReturn_text ht] at hdecode ⊢
      cases hdecode
      rfl

/-! ## Accepted tokens -/

theorem decodeField_eq_ok_iff {u : Text} {type : TypeName} :
    decodeField u = .ok type ↔
      ∃ t : Token, t.element.IsLegible ∧ u = t.text ∧ type = t.type := by
  cases u with
  | nil =>
      constructor
      · intro hdecode
        cases hdecode
      · rintro ⟨t, _, htext, _⟩
        exact absurd htext.symm t.text_ne_nil
  | cons c u => exact readOnlyType_eq_ok_iff

/-- Some brackets, and a `;` for an element. -/
def IsSemicolon (u : Text) : Prop := ∃ k, u = List.replicate k '[' ++ [';']

theorem Token.isResult {t : Token} (ht : t.element.IsLegible)
    (hsemicolon : ¬ IsSemicolon t.text) : t.element.IsResult := by
  cases helement : t.element with
  | object name =>
      rw [helement] at ht
      exact ht
  | code c =>
      rw [helement] at ht
      refine ⟨ht.1, ht.2, ?_⟩
      rintro rfl
      exact hsemicolon ⟨t.brackets, by
        rw [Token.text, Token.prefixText, helement, Element.text]⟩

theorem Token.resultType_eq_some_iff {t : Token} (ht : t.element.IsLegible)
    (hvoid : t.text ≠ ['V']) {name : Text} {array : Bool} :
    t.resultType = some ⟨name, array⟩ ↔
      ∃ n, t.type = ⟨n, array⟩ ∧ name = t.text.takeWhile (· = '[') ++ n := by
  have hprefix := Token.takeWhile_text_append ht []
  rw [List.append_nil] at hprefix
  rw [resultType, if_neg hvoid, hprefix, type]
  simp only [Option.some.injEq, TypeName.mk.injEq]
  constructor
  · rintro ⟨rfl, rfl⟩
    exact ⟨_, ⟨rfl, rfl⟩, rfl⟩
  · rintro ⟨n, ⟨rfl, rfl⟩, rfl⟩
    exact ⟨rfl, rfl⟩

/-- A single argument is what a field may be. -/
theorem decodeField_eq_ok_iff_argTypes {u : Text} (hclosing : ')' ∉ u)
    {type : TypeName} :
    decodeField u = .ok type ↔
      ∃ s, decodeMethod ('(' :: (u ++ ")V".toList)) = .ok s ∧
        s.argTypes = [type] := by
  rw [decodeField_eq_ok_iff]
  constructor
  · rintro ⟨t, ht, rfl, rfl⟩
    have hspells : Spells ('(' :: (t.text ++ ")V".toList)) [t]
        ⟨0, .code 'V'⟩ := by
      refine ⟨by simp [Token.text, Token.prefixText, Element.text], ?_,
        by decide⟩
      intro t' ht'
      rw [List.mem_singleton.mp ht', Element.isArgument_iff]
      exact ⟨ht, fun hmem => hclosing (List.mem_append_right _ hmem)⟩
    exact ⟨_, hspells.decodeMethod, rfl⟩
  · rintro ⟨s, hdecode, htypes⟩
    obtain ⟨arguments, result, hspells⟩ :=
      exists_spelling_of_decodeMethod hdecode
    rw [hspells.decodeMethod] at hdecode
    cases hdecode
    obtain ⟨t, rfl, rfl⟩ := List.map_eq_singleton_iff.mp htypes
    have hraw : u ++ ")V".toList = rowText [t] ++ ')' :: result.text :=
      (List.cons.inj hspells.raw_eq).2
    have htext : (u ++ ")V".toList).takeWhile (· ≠ ')') = u :=
      takeWhile_span (decide_ne_of_notMem hclosing) (by simp)
    rw [hraw, hspells.split_at_closing.1, rowText_cons, rowText_nil,
      List.append_nil] at htext
    exact ⟨t, hspells.arguments_legible t (by simp), htext.symm, rfl⟩

theorem decodeReturnAt?_zero (u : Text) :
    decodeReturnAt? u 0 = some (decodeReturn 0 u) := by
  rw [decodeReturnAt?, dropBytes?, Option.map_some]

theorem decodeReturnAt?_append (ahead u : Text) :
    decodeReturnAt? (ahead ++ u) ahead.utf8Length =
      (decodeReturnAt? u 0).map
        (Except.mapError (Fault.shift ahead.utf8Length)) := by
  rw [decodeReturnAt?, dropBytes?_append, decodeReturnAt?_zero, Option.map_some,
    Option.map_some]
  exact congrArg some (decodeReturn_shift ahead.utf8Length 0 u)

section Result

variable {u : Text}

/-- A result with a type is a token, and its type is that of the token with the
brackets put back. -/
theorem decodeReturn_eq_ok_some_iff (hvoid : u ≠ ['V'])
    (hsemicolon : ¬ IsSemicolon u) (name : Text) (array : Bool) :
    decodeReturn 0 u = .ok (some ⟨name, array⟩) ↔
      ∃ n, decodeField u = .ok ⟨n, array⟩ ∧
        name = u.takeWhile (· = '[') ++ n := by
  constructor
  · intro hdecode
    obtain ⟨t, ht, rfl⟩ := exists_token_of_decodeReturn hdecode
    rw [decodeReturn_text ht, Except.ok.injEq,
      Token.resultType_eq_some_iff ht.isLegible hvoid] at hdecode
    obtain ⟨n, htype, hname⟩ := hdecode
    exact ⟨n, decodeField_eq_ok_iff.mpr ⟨t, ht.isLegible, rfl, htype.symm⟩,
      hname⟩
  · rintro ⟨n, hfield, hname⟩
    obtain ⟨t, ht, rfl, htype⟩ := decodeField_eq_ok_iff.mp hfield
    rw [decodeReturn_text (Token.isResult ht hsemicolon), Except.ok.injEq,
      Token.resultType_eq_some_iff ht hvoid]
    exact ⟨n, htype.symm, hname⟩

/-- What is no token is no result either. -/
theorem exists_fault_of_not_field (hfield : ∀ type, decodeField u ≠ .ok type) :
    (∃ f, decodeReturn 0 u = .error f) ∧ ∃ f, decodeField u = .error f := by
  constructor
  · cases hdecode : decodeReturn 0 u with
    | error f => exact ⟨f, rfl⟩
    | ok type =>
        obtain ⟨t, ht, rfl⟩ := exists_token_of_decodeReturn hdecode
        exact absurd (decodeField_eq_ok_iff.mpr ⟨t, ht.isLegible, rfl, rfl⟩)
          (hfield t.type)
  · cases hdecode : decodeField u with
    | error f => exact ⟨f, rfl⟩
    | ok type => exact absurd hdecode (hfield type)

end Result

theorem decode_semicolon (k : ℕ) :
    decodeReturn 0 (List.replicate k '[' ++ [';']) =
        .error (.returnWithoutMarker 0) ∧
      decodeField (List.replicate k '[' ++ [';']) =
        .ok ⟨[';'], decide (0 < k)⟩ := by
  constructor
  · refine decodeReturn_unmarked (by simp) ?_ 0
    simp [List.mem_replicate]
  · exact decodeField_eq_ok_iff.mpr ⟨⟨k, .code ';'⟩, by simp [Element.IsLegible], rfl, rfl⟩

/-! ## The account -/

/-- The decoders agree on a token. -/
structure ReadsAlike (u : Text) : Prop where
  argument : ')' ∉ u → ∀ type, decodeField u = .ok type ↔
    ∃ s, decodeMethod ('(' :: (u ++ ")V".toList)) = .ok s ∧ s.argTypes = [type]
  result : u ≠ ['V'] → ¬ IsSemicolon u → ∀ name array,
    decodeReturnAt? u 0 = some (.ok (some ⟨name, array⟩)) ↔
      ∃ n, decodeField u = .ok ⟨n, array⟩ ∧
        name = u.takeWhile (· = '[') ++ n
  refused : u ≠ ['V'] → ¬ IsSemicolon u → (∀ type, decodeField u ≠ .ok type) →
    (∃ f, decodeReturnAt? u 0 = some (.error f)) ∧
      ∃ f, decodeField u = .error f
  void : u = ['V'] → decodeReturnAt? u 0 = some (.ok none) ∧
    decodeField u = .ok ⟨['V'], false⟩
  semicolon : ∀ k, u = List.replicate k '[' ++ [';'] →
    decodeReturnAt? u 0 = some (.error (.returnWithoutMarker 0)) ∧
      decodeField u = .ok ⟨[';'], decide (0 < k)⟩
  shifted : ∀ ahead : Text, decodeReturnAt? (ahead ++ u) ahead.utf8Length =
    (decodeReturnAt? u 0).map (Except.mapError (Fault.shift ahead.utf8Length))
  shiftedAt : ∀ ahead : Text, (returnAt (ahead ++ u) ahead.utf8Length).run =
    (decodeReturnAt? u 0).map (Except.mapError (Fault.shift ahead.utf8Length))

theorem decoders_readAlike (u : Text) : ReadsAlike u where
  argument := fun hclosing _ => decodeField_eq_ok_iff_argTypes hclosing
  result := by
    intro hvoid hsemicolon name array
    rw [decodeReturnAt?_zero, Option.some.injEq]
    exact decodeReturn_eq_ok_some_iff hvoid hsemicolon name array
  refused := by
    intro _ _ hfield
    obtain ⟨⟨f, hreturn⟩, hrefused⟩ := exists_fault_of_not_field hfield
    exact ⟨⟨f, by rw [decodeReturnAt?_zero, hreturn]⟩, hrefused⟩
  void := by
    rintro rfl
    exact ⟨decodeReturnAt?_zero _, rfl⟩
  semicolon := by
    rintro k rfl
    obtain ⟨hreturn, hfield⟩ := decode_semicolon k
    exact ⟨by rw [decodeReturnAt?_zero, hreturn], hfield⟩
  shifted := fun ahead => decodeReturnAt?_append ahead u
  shiftedAt := by
    intro ahead
    rw [run_returnAt, decodeReturnAt?_append]

end Descriptor
end Stubgen

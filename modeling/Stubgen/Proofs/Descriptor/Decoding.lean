import Stubgen.Proofs.Descriptor.Grammar

/-!
# Decoding against the grammar

A method descriptor is a row of argument tokens in round brackets and one
result token.  The decoder looks for the first closing bracket, and in the
result for the first `L` and for any `;`, before it looks at the shape.  The
statements below say that these searches find nothing but the boundaries of
the grammar.
-/

namespace Stubgen
namespace Descriptor

/-- The elements of arguments: the first `)` must be the closing bracket. -/
def Element.IsArgument : Element → Prop
  | .object name => name ≠ [] ∧ ';' ∉ name ∧ ')' ∉ name
  | .code c => c ≠ '[' ∧ c ≠ 'L' ∧ c ≠ ')'

/-- The elements of results.  The code `V` is one of them. -/
def Element.IsResult : Element → Prop
  | .object name => name ≠ [] ∧ ';' ∉ name
  | .code c => c ≠ '[' ∧ c ≠ 'L' ∧ c ≠ ';'

instance : DecidablePred Element.IsArgument := fun e =>
  match e with
  | .object name =>
      inferInstanceAs (Decidable (name ≠ [] ∧ ';' ∉ name ∧ ')' ∉ name))
  | .code c => inferInstanceAs (Decidable (c ≠ '[' ∧ c ≠ 'L' ∧ c ≠ ')'))

instance : DecidablePred Element.IsResult := fun e =>
  match e with
  | .object name => inferInstanceAs (Decidable (name ≠ [] ∧ ';' ∉ name))
  | .code c => inferInstanceAs (Decidable (c ≠ '[' ∧ c ≠ 'L' ∧ c ≠ ';'))

/-- The row of arguments and the result that a method descriptor spells. -/
structure Spells (raw : Text) (arguments : List Token) (result : Token) :
    Prop where
  raw_eq : raw = '(' :: (rowText arguments ++ ')' :: result.text)
  arguments_fit : ∀ t ∈ arguments, t.element.IsArgument
  result_fits : result.element.IsResult

theorem Element.isArgument_iff {e : Element} :
    e.IsArgument ↔ e.IsLegible ∧ ')' ∉ e.text := by
  cases e with
  | object name =>
      simp [IsArgument, IsLegible, text, and_assoc]
  | code c =>
      simp [IsArgument, IsLegible, text, and_assoc, eq_comm]

theorem Element.IsResult.isLegible {e : Element} (he : e.IsResult) :
    e.IsLegible := by
  cases e with
  | object name => exact he
  | code c => exact ⟨he.1, he.2.1⟩

theorem closing_mem_rowText_iff {tokens : List Token} :
    ')' ∈ rowText tokens ↔ ∃ t ∈ tokens, ')' ∈ t.element.text := by
  simp [rowText, Token.text, Token.prefixText, List.mem_replicate]

/-! ## Results -/

theorem readOnlyType_eq_ok_iff {pos : ℕ} {u : Text} {type : TypeName} :
    readOnlyType pos u = .ok type ↔
      ∃ t : Token, t.element.IsLegible ∧ u = t.text ∧ type = t.type := by
  constructor
  · intro hread
    unfold readOnlyType at hread
    split at hread
    next => cases hread
    next found hok =>
      cases hread
      obtain ⟨t, ht, htext, htype⟩ := exists_token_of_readType hok
      exact ⟨t, ht, by simpa using htext, htype⟩
    next => cases hread
  · rintro ⟨t, ht, rfl, rfl⟩
    have hread := readType_text_append ht pos []
    rw [List.append_nil] at hread
    unfold readOnlyType
    rw [hread]

/-- The type of a result keeps its brackets in its name. -/
def Token.resultType (t : Token) : Option TypeName :=
  if t.text = ['V'] then none
  else some ⟨t.prefixText ++ t.element.name, decide (0 < t.brackets)⟩

theorem Token.head?_text_eq_bracket {t : Token}
    (ht : t.element.IsLegible) :
    decide (t.text.head? = some '[') = decide (0 < t.brackets) := by
  cases hbrackets : t.brackets with
  | zero =>
      have hstops := Element.stops_text ht []
      have htext : t.text = t.element.text := by
        simp [Token.text, Token.prefixText, hbrackets]
      cases helement : t.element with
      | object name => simp [htext, helement, Element.text]
      | code c =>
          rw [helement] at ht
          simpa [htext, helement, Element.text] using ht.1
  | succ k =>
      simp [Token.text, Token.prefixText, hbrackets, List.replicate_succ]

theorem semicolon_notMem_prefixText (t : Token) : ';' ∉ t.prefixText := by
  intro hmem
  have := Token.mem_prefixText hmem
  simp at this

/-- The first `L` of an object token is its own marker. -/
theorem Token.split_at_marker {t : Token} {name : Text}
    (helement : t.element = .object name) :
    t.text.takeWhile (· ≠ 'L') = t.prefixText ∧
      t.text.dropWhile (· ≠ 'L') = 'L' :: (name ++ [';']) := by
  have hopening : ∀ c ∈ t.prefixText, decide (c ≠ 'L') = true := by
    intro c hc
    rw [Token.mem_prefixText hc]
    rfl
  have hstops : Text.Stops (· ≠ 'L') ('L' :: (name ++ [';'])) := by simp
  have htext : t.text = t.prefixText ++ 'L' :: (name ++ [';']) := by
    simp [Token.text, helement, Element.text]
  rw [htext]
  exact ⟨Text.takeWhile_span hopening hstops,
    Text.dropWhile_span hopening hstops⟩

theorem decodeReturn_text {t : Token} (ht : t.element.IsResult) (pos : ℕ) :
    decodeReturn pos t.text = .ok t.resultType := by
  have hread : readOnlyType pos t.text = .ok t.type :=
    readOnlyType_eq_ok_iff.mpr ⟨t, ht.isLegible, rfl, rfl⟩
  have harray := Token.head?_text_eq_bracket ht.isLegible
  have hnonempty : t.text.isEmpty = false := by simp [t.text_ne_nil]
  unfold decodeReturn Token.resultType
  rw [if_neg (by simp [hnonempty])]
  by_cases hvoid : t.text = ['V']
  · rw [if_pos hvoid, if_pos hvoid]
  · rw [if_neg hvoid, if_neg hvoid]
    dsimp only
    rw [harray, hread]
    cases helement : t.element with
    | object name =>
        obtain ⟨htake, hdrop⟩ := Token.split_at_marker helement
        have hsemicolon : t.text.contains ';' = true := by
          simp [Token.text, helement, Element.text]
        have hmarker : t.text.contains 'L' = true := by
          simp [Token.text, helement, Element.text]
        rw [if_pos hsemicolon, hmarker, htake, hdrop]
        simp [Except.map, Element.name]
    | code c =>
        rw [helement] at ht
        have hsemicolon : t.text.contains ';' = false := by
          have hc := ht.2.2
          simp [Token.text, helement, Element.text,
            semicolon_notMem_prefixText, eq_comm, hc]
        rw [hsemicolon]
        simp [Except.map, Token.text, helement, Element.text, Element.name]

/-- An accepted result is one token.  A lone `;` would be one for the reader of
tokens, but it has no `L` in front of it. -/
theorem exists_token_of_decodeReturn {pos : ℕ} {u : Text}
    {type : Option TypeName} (hdecode : decodeReturn pos u = .ok type) :
    ∃ t : Token, t.element.IsResult ∧ u = t.text := by
  unfold decodeReturn at hdecode
  split at hdecode
  next => cases hdecode
  next hnonempty =>
    split at hdecode
    next hvoid => exact ⟨⟨0, .code 'V'⟩, by decide, hvoid⟩
    next hvoid =>
      have hread : ∃ found, readOnlyType pos u = .ok found := by
        cases hresult : readOnlyType pos u with
        | ok found => exact ⟨found, rfl⟩
        | error fault =>
            simp only [hresult, Except.map] at hdecode
            split at hdecode
            · split at hdecode <;> cases hdecode
            · cases hdecode
      obtain ⟨found, hfound⟩ := hread
      obtain ⟨t, ht, rfl, _⟩ := readOnlyType_eq_ok_iff.mp hfound
      refine ⟨t, ?_, rfl⟩
      cases helement : t.element with
      | object name =>
          rw [helement] at ht
          exact ht
      | code c =>
          rw [helement] at ht
          refine ⟨ht.1, ht.2, ?_⟩
          rintro rfl
          have hsemicolon : t.text.contains ';' = true := by
            simp [Token.text, helement, Element.text]
          have hmarker : t.text.contains 'L' = false := by
            simp [Token.text, Token.prefixText, helement, Element.text,
              List.mem_replicate]
          simp only [hsemicolon, hmarker, if_true, Bool.not_false] at hdecode
          cases hdecode

/-! ## Methods -/

theorem Spells.arguments_legible {raw : Text} {arguments : List Token}
    {result : Token} (hspells : Spells raw arguments result) :
    ∀ t ∈ arguments, t.element.IsLegible := by
  intro t ht
  exact (Element.isArgument_iff.mp (hspells.arguments_fit t ht)).1

/-- The row of arguments ends at the first closing bracket. -/
theorem Spells.split_at_closing {raw : Text} {arguments : List Token}
    {result : Token} (hspells : Spells raw arguments result) :
    (rowText arguments ++ ')' :: result.text).takeWhile (· ≠ ')') =
        rowText arguments ∧
      (rowText arguments ++ ')' :: result.text).dropWhile (· ≠ ')') =
        ')' :: result.text := by
  have hrow : ∀ c ∈ rowText arguments, decide (c ≠ ')') = true := by
    intro c hc
    rw [decide_eq_true_iff]
    rintro rfl
    obtain ⟨t, ht, hmem⟩ := closing_mem_rowText_iff.mp hc
    exact (Element.isArgument_iff.mp (hspells.arguments_fit t ht)).2 hmem
  have hstops : Text.Stops (· ≠ ')') (')' :: result.text) := by simp
  exact ⟨Text.takeWhile_span hrow hstops, Text.dropWhile_span hrow hstops⟩

theorem Spells.decodeMethod {raw : Text} {arguments : List Token}
    {result : Token} (hspells : Spells raw arguments result) :
    Descriptor.decodeMethod raw =
      .ok ⟨raw, arguments.map Token.type, result.resultType⟩ := by
  obtain ⟨htake, hdrop⟩ := hspells.split_at_closing
  have hlegible := hspells.arguments_legible
  rw [hspells.raw_eq]
  unfold Descriptor.decodeMethod
  simp only [htake, hdrop, readTypes_rowText hlegible,
    decodeReturn_text hspells.result_fits]
  rfl

theorem exists_spelling_of_decodeMethod {raw : Text} {s : Signature}
    (hdecode : decodeMethod raw = .ok s) :
    ∃ arguments result, Spells raw arguments result := by
  unfold decodeMethod at hdecode
  split at hdecode
  next => cases hdecode
  next body =>
    have hstops := Text.stops_dropWhile (· ≠ ')') body
    have hcut : body.takeWhile (· ≠ ')') ++ body.dropWhile (· ≠ ')') = body :=
      List.takeWhile_append_dropWhile
    split at hdecode
    next => cases hdecode
    next closing rest hdrop =>
      rw [hdrop] at hstops hcut
      have hclosing : closing = ')' := by simpa using hstops
      obtain ⟨types, htypes, hdecode⟩ := except_bind_eq_ok_iff.mp hdecode
      obtain ⟨type, htype, _⟩ := except_bind_eq_ok_iff.mp hdecode
      obtain ⟨arguments, hlegible, hrow, _⟩ := exists_row_of_readTypes htypes
      obtain ⟨result, hresult, hrest⟩ := exists_token_of_decodeReturn htype
      refine ⟨arguments, result, ?_, ?_, hresult⟩
      · rw [hclosing] at hcut
        rw [← hrow, ← hrest, hcut]
      · intro t ht
        refine Element.isArgument_iff.mpr ⟨hlegible t ht, ?_⟩
        intro hmem
        have hclosed : ')' ∈ body.takeWhile (· ≠ ')') := by
          rw [hrow]
          exact closing_mem_rowText_iff.mpr ⟨t, ht, hmem⟩
        simpa using List.mem_takeWhile_imp hclosed
  next => cases hdecode

/-- A descriptor has one spelling. -/
theorem Spells.unique {raw : Text} {arguments arguments' : List Token}
    {result result' : Token} (hspells : Spells raw arguments result)
    (hspells' : Spells raw arguments' result') :
    arguments = arguments' ∧ result = result' := by
  have heq : rowText arguments ++ ')' :: result.text =
      rowText arguments' ++ ')' :: result'.text := by
    have := hspells.raw_eq.symm.trans hspells'.raw_eq
    simpa using this
  obtain ⟨htake, hdrop⟩ := hspells.split_at_closing
  obtain ⟨htake', hdrop'⟩ := hspells'.split_at_closing
  rw [heq] at htake hdrop
  constructor
  · exact rowText_inj hspells.arguments_legible hspells'.arguments_legible
      (htake.symm.trans htake')
  · have htext : result.text = result'.text := by
      have := hdrop.symm.trans hdrop'
      simpa using this
    exact (Token.text_append_inj hspells.result_fits.isLegible
      hspells'.result_fits.isLegible (congrArg (· ++ []) htext)).1

theorem Token.resultType_eq_none_iff {t : Token} :
    t.resultType = none ↔ t.text = ['V'] := by
  unfold resultType
  split <;> simp_all

/-- The decoder accepts exactly the spelled descriptors, a descriptor has one
spelling, and the signature is read off the spelling: arguments lose their
brackets, the result keeps them in its name, and only `V` is no type. -/
theorem decodeMethod_accepts_spelled (raw : Text) :
    ((∃ s, decodeMethod raw = .ok s) ↔
      ∃ arguments result, Spells raw arguments result) ∧
    ∀ arguments result, Spells raw arguments result →
      (∀ arguments' result', Spells raw arguments' result' →
        arguments' = arguments ∧ result' = result) ∧
      ∃ s, decodeMethod raw = .ok s ∧ s.raw = raw ∧
        s.argTypes =
          arguments.map (fun t => ⟨t.element.name, decide (0 < t.brackets)⟩) ∧
        (s.returnType = none ↔ result.text = ['V']) ∧
        (result.text ≠ ['V'] →
          s.returnType =
            some ⟨List.replicate result.brackets '[' ++ result.element.name,
              decide (0 < result.brackets)⟩) := by
  refine ⟨⟨?_, ?_⟩, ?_⟩
  · rintro ⟨s, hdecode⟩
    exact exists_spelling_of_decodeMethod hdecode
  · rintro ⟨arguments, result, hspells⟩
    exact ⟨_, hspells.decodeMethod⟩
  · intro arguments result hspells
    refine ⟨fun _ _ hspells' => hspells'.unique hspells, _,
      hspells.decodeMethod, rfl, rfl, Token.resultType_eq_none_iff, ?_⟩
    intro hnotVoid
    exact if_neg hnotVoid

theorem decodeMethod_accepts_spelled_arrays :
    Spells "([[La/b;I)[Lx;".toList
        [⟨2, .object "a/b".toList⟩, ⟨0, .code 'I'⟩] ⟨1, .object "x".toList⟩ ∧
      ∃ s, decodeMethod "([[La/b;I)[Lx;".toList = .ok s ∧
        s.argTypes = [⟨"a/b".toList, true⟩, ⟨"I".toList, false⟩] ∧
        s.returnType = some ⟨"[x".toList, true⟩ := by
  have hspells : Spells "([[La/b;I)[Lx;".toList
      [⟨2, .object "a/b".toList⟩, ⟨0, .code 'I'⟩] ⟨1, .object "x".toList⟩ :=
    ⟨by decide, by decide, by decide⟩
  obtain ⟨_, s, hdecode, _, harguments, _, hresult⟩ :=
    (decodeMethod_accepts_spelled "([[La/b;I)[Lx;".toList).2 _ _ hspells
  exact ⟨hspells, s, hdecode, harguments, hresult (by decide)⟩

end Descriptor
end Stubgen

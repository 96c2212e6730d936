import Stubgen.Proofs.Descriptor.Position

/-!
# The leftmost fault

A malformed descriptor is decoded up to its leftmost fault.  In front of the
fault stand an opening bracket and tokens, as many as there are.  What is wrong
behind them can be said without the decoder: a text that starts with no token
has nothing behind its brackets, or an object without a name or without an end.
The statements say which fault is reported and at which byte, for every text
that is no descriptor.
-/

namespace Stubgen
namespace Descriptor

open Text

/-! ## Texts that start with no token -/

/-- A token can be read off the front of the text. -/
def StartsWithToken (u : Text) : Prop :=
  ∃ (t : Token) (rest : Text), t.element.IsLegible ∧ u = t.text ++ rest

/-- What stands behind the brackets in front of a text. -/
def behindBrackets (u : Text) : Text := u.dropWhile (· = '[')

/-- The position behind the brackets in front of a text that stands at
`start`. -/
def elementPos (start : ℕ) (u : Text) : ℕ :=
  start + utf8Length (u.takeWhile (· = '['))

/-- What is wrong with a text that stands at `start` and starts with no token. -/
inductive Lacks (start : ℕ) (u : Text) : Fault → Prop
  | element (h : behindBrackets u = []) : Lacks start u (.danglingArray start)
  | name (after : Text) (h : behindBrackets u = 'L' :: ';' :: after) :
    Lacks start u (.emptyObjectName (elementPos start u))
  | ending (behind : Text) (h : behindBrackets u = 'L' :: behind)
    (hending : ';' ∉ behind) :
    Lacks start u (.unterminatedObject (elementPos start u))

theorem elementPos_eq (start : ℕ) (u : Text) :
    elementPos start u = start + (u.takeWhile (· = '[')).length := by
  rw [elementPos, takeWhile_bracket, utf8Length_replicate_bracket,
    List.length_replicate]

/-- The reader of a token fails exactly on the texts that start with none. -/
theorem readType_eq_error_iff {start : ℕ} {u : Text} {f : Fault} :
    readType start u = .error f ↔ Lacks start u f := by
  constructor
  · intro hread
    unfold readType at hread
    dsimp only at hread
    rw [← elementPos_eq] at hread
    split at hread
    next hbody =>
      cases hread
      exact .element hbody
    next behind hbody =>
      split at hread
      next hdrop =>
        cases hread
        refine .ending behind hbody fun hmem => ?_
        have hall := List.dropWhile_eq_nil_iff.mp hdrop ';' hmem
        simp at hall
      next semicolon after hdrop =>
        split at hread
        next hempty =>
          cases hread
          have hcut : behind.takeWhile (· ≠ ';') ++
              behind.dropWhile (· ≠ ';') = behind :=
            List.takeWhile_append_dropWhile
          have hstop := stops_dropWhile (· ≠ ';') behind
          rw [hdrop] at hcut hstop
          rw [List.isEmpty_iff.mp hempty] at hcut
          have hsemicolon : semicolon = ';' := by simpa using hstop
          refine .name after ?_
          rw [← hsemicolon]
          exact hbody.trans (congrArg ('L' :: ·) hcut.symm)
        next => cases hread
    next => cases hread
  · intro hlacks
    unfold readType
    dsimp only
    rw [← elementPos_eq]
    cases hlacks with
    | element hbody =>
        rw [show u.dropWhile (· = '[') = [] from hbody]
    | name after hbody =>
        rw [show u.dropWhile (· = '[') = _ from hbody]
        rfl
    | ending behind hbody hending =>
        have hdrop : behind.dropWhile (· ≠ ';') = [] :=
          List.dropWhile_eq_nil_iff.mpr (decide_ne_of_notMem hending)
        rw [show u.dropWhile (· = '[') = _ from hbody]
        simp only [hdrop]

theorem Lacks.not_startsWithToken {start : ℕ} {u : Text} {f : Fault}
    (h : Lacks start u f) : ¬ StartsWithToken u := by
  rintro ⟨t, rest, ht, rfl⟩
  rw [← readType_eq_error_iff, readType_text_append ht] at h
  cases h

/-! ## Rows -/

theorem exists_lacks_of_readTypes {pos : ℕ} {u : Text} {f : Fault}
    (hread : readTypes pos u = .error f) :
    ∃ (tokens : List Token) (rest : Text),
      (∀ t ∈ tokens, t.element.IsLegible) ∧ u = rowText tokens ++ rest ∧
        Lacks (pos + utf8Length (rowText tokens)) rest f := by
  fun_induction readTypes pos u with
  | case1 pos u hempty => cases hread
  | case2 pos u hempty fault hfault =>
      cases hread
      exact ⟨[], u, by simp, rfl, readType_eq_error_iff.mp hfault⟩
  | case3 pos u hempty type behind hok ih =>
      obtain ⟨t, ht, rfl, _⟩ := exists_token_of_readType hok
      obtain ⟨tokens, rest, htokens, rfl, hlacks⟩ :=
        ih (except_map_eq_error_iff.mp hread)
      refine ⟨t :: tokens, rest, by simpa using And.intro ht htokens,
        by simp, ?_⟩
      rw [utf8Length_append t.text, Nat.add_sub_cancel, Nat.add_assoc,
        ← utf8Length_append] at hlacks
      exact hlacks

/-- A text is a concatenation of tokens of arguments. -/
def IsRow (u : Text) : Prop :=
  ∃ tokens : List Token, (∀ t ∈ tokens, t.element.IsArgument) ∧
    u = rowText tokens

/-- The longest beginning of a text that is a row of arguments. -/
structure IsLongestRow (row u : Text) : Prop where
  isPrefix : row <+: u
  isRow : IsRow row
  length_le : ∀ v, v <+: u → IsRow v → v.length ≤ row.length

theorem isRow_rowText {tokens : List Token}
    (htokens : ∀ t ∈ tokens, t.element.IsLegible)
    (hclosing : ')' ∉ rowText tokens) : IsRow (rowText tokens) := by
  refine ⟨tokens, fun t ht => ?_, rfl⟩
  refine Element.isArgument_iff.mpr ⟨htokens t ht, fun hmem => hclosing ?_⟩
  exact closing_mem_rowText_iff.mpr ⟨t, ht, hmem⟩

/-- Where no token starts, a row has come to its end: all other rows in front of
the text are shorter. -/
theorem isPrefix_of_rowText_append {tokens others : List Token}
    {rest tail : Text} (htokens : ∀ t ∈ tokens, t.element.IsLegible)
    (hothers : ∀ t ∈ others, t.element.IsLegible)
    (hrest : ¬ StartsWithToken rest)
    (heq : rowText tokens ++ rest = rowText others ++ tail) :
    others <+: tokens := by
  induction tokens generalizing others with
  | nil =>
      cases others with
      | nil => exact List.prefix_rfl
      | cons t others =>
          rw [rowText_nil, List.nil_append, rowText_cons,
            List.append_assoc] at heq
          exact absurd ⟨t, _, hothers t (by simp), heq⟩ hrest
  | cons t tokens ih =>
      cases others with
      | nil => exact List.nil_prefix
      | cons t' others =>
          rw [rowText_cons, rowText_cons, List.append_assoc,
            List.append_assoc] at heq
          obtain ⟨rfl, hbehind⟩ := Token.text_append_inj
            (htokens t (by simp)) (hothers t' (by simp)) heq
          have hprefix := ih (fun t ht => htokens t (by simp [ht]))
            (fun t ht => hothers t (by simp [ht])) hbehind
          exact (List.prefix_cons_inj t).mpr hprefix

theorem isLongestRow_rowText {tokens : List Token} {rest : Text}
    (htokens : ∀ t ∈ tokens, t.element.IsLegible)
    (hrest : ¬ StartsWithToken rest) (hclosing : ')' ∉ rowText tokens) :
    IsLongestRow (rowText tokens) (rowText tokens ++ rest) where
  isPrefix := List.prefix_append _ _
  isRow := isRow_rowText htokens hclosing
  length_le := by
    rintro v ⟨tail, htail⟩ ⟨others, hothers, rfl⟩
    have hlegible : ∀ t ∈ others, t.element.IsLegible :=
      fun t ht => (Element.isArgument_iff.mp (hothers t ht)).1
    obtain ⟨more, rfl⟩ :=
      isPrefix_of_rowText_append htokens hlegible hrest htail.symm
    rw [rowText, rowText, List.flatMap_append, List.length_append]
    exact Nat.le_add_right _ _

/-! ## Results -/

theorem readOnlyType_eq_error_iff {pos : ℕ} {u : Text} {f : Fault} :
    readOnlyType pos u = .error f ↔ Lacks pos u f ∨
      ∃ (t : Token) (rest : Text), t.element.IsLegible ∧ u = t.text ++ rest ∧
        rest ≠ [] ∧ f = .trailingInput (pos + utf8Length t.text) := by
  unfold readOnlyType
  cases hread : readType pos u with
  | error fault =>
      have hlacks := readType_eq_error_iff.mp hread
      constructor
      · intro hf
        cases hf
        exact Or.inl hlacks
      · rintro (h | ⟨t, rest, ht, htext, _⟩)
        · rw [readType_eq_error_iff.mpr h] at hread
          cases hread
          rfl
        · exact absurd ⟨t, rest, ht, htext⟩ hlacks.not_startsWithToken
  | ok r =>
      obtain ⟨type, rest⟩ := r
      obtain ⟨t, ht, rfl, _⟩ := exists_token_of_readType hread
      have hstarts : StartsWithToken (t.text ++ rest) := ⟨t, rest, ht, rfl⟩
      cases rest with
      | nil =>
          constructor
          · intro hf
            cases hf
          · rintro (h | ⟨t', rest, ht', htext, hne, _⟩)
            · exact absurd hstarts h.not_startsWithToken
            · exact absurd (Token.text_append_inj ht ht' htext).2.symm hne
      | cons c rest =>
          dsimp only
          rw [utf8Length_append, Nat.add_sub_cancel]
          constructor
          · intro hf
            cases hf
            exact Or.inr ⟨t, c :: rest, ht, rfl, by simp, rfl⟩
          · rintro (h | ⟨t', rest', ht', htext, _, rfl⟩)
            · exact absurd hstarts h.not_startsWithToken
            · rw [(Token.text_append_inj ht ht' htext).1]

theorem decodeReturn_nil (pos : ℕ) :
    decodeReturn pos [] = .error (.missingReturn pos) := rfl

theorem decodeReturn_unmarked {u : Text} (hsemicolon : ';' ∈ u)
    (hmarker : 'L' ∉ u) (pos : ℕ) :
    decodeReturn pos u = .error (.returnWithoutMarker pos) := by
  have hempty : ¬ u.isEmpty = true := by
    rw [List.isEmpty_iff]
    exact List.ne_nil_of_mem hsemicolon
  have hvoid : u ≠ ['V'] := by
    rintro rfl
    simp at hsemicolon
  unfold decodeReturn
  rw [if_neg hempty, if_neg hvoid]
  dsimp only
  rw [if_pos (by simpa using hsemicolon), if_pos (by simpa using hmarker)]

/-- Where the marker is not missed, a result is at fault where one token is. -/
theorem decodeReturn_marked_eq_error_iff {pos : ℕ} {u : Text} {f : Fault}
    (hne : u ≠ []) (hmarked : ¬ (';' ∈ u ∧ 'L' ∉ u)) :
    decodeReturn pos u = .error f ↔ readOnlyType pos u = .error f := by
  unfold decodeReturn
  rw [if_neg (by simpa using hne)]
  split
  next hvoid =>
    rw [hvoid]
    constructor <;> intro hf <;> cases hf
  next =>
    dsimp only
    split
    next hsemicolon =>
      have hmarker : 'L' ∈ u := by
        by_contra hmarker
        exact hmarked ⟨by simpa using hsemicolon, hmarker⟩
      rw [if_neg (by simpa using hmarker), except_map_eq_error_iff]
    next => rw [except_map_eq_error_iff]

/-- What is wrong with a result that stands at `start`. -/
inductive SpoilsResult (start : ℕ) (result : Text) : Fault → Prop
  | missing (h : result = []) : SpoilsResult start result (.missingReturn start)
  | unmarked (h : ';' ∈ result ∧ 'L' ∉ result) :
    SpoilsResult start result (.returnWithoutMarker start)
  | token (hne : result ≠ []) (hmarked : ¬ (';' ∈ result ∧ 'L' ∉ result))
    {f : Fault} (h : Lacks start result f) : SpoilsResult start result f
  | trailing (hne : result ≠ []) (hmarked : ¬ (';' ∈ result ∧ 'L' ∉ result))
    (t : Token) (rest : Text) (ht : t.element.IsLegible)
    (htext : result = t.text ++ rest) (hrest : rest ≠ []) :
    SpoilsResult start result (.trailingInput (start + utf8Length t.text))

theorem decodeReturn_eq_error_iff {start : ℕ} {result : Text} {f : Fault} :
    decodeReturn start result = .error f ↔ SpoilsResult start result f := by
  constructor
  · intro hdecode
    by_cases hempty : result = []
    · rw [hempty, decodeReturn_nil] at hdecode
      cases hdecode
      exact .missing hempty
    by_cases hunmarked : ';' ∈ result ∧ 'L' ∉ result
    · rw [decodeReturn_unmarked hunmarked.1 hunmarked.2] at hdecode
      cases hdecode
      exact .unmarked hunmarked
    rw [decodeReturn_marked_eq_error_iff hempty hunmarked,
      readOnlyType_eq_error_iff] at hdecode
    rcases hdecode with hlacks | ⟨t, rest, ht, htext, hrest, rfl⟩
    · exact .token hempty hunmarked hlacks
    · exact .trailing hempty hunmarked t rest ht htext hrest
  · intro h
    cases h with
    | missing h => rw [h, decodeReturn_nil]
    | unmarked h => exact decodeReturn_unmarked h.1 h.2 start
    | token hne hmarked h =>
        rw [decodeReturn_marked_eq_error_iff hne hmarked,
          readOnlyType_eq_error_iff]
        exact Or.inl h
    | trailing hne hmarked t rest ht htext hrest =>
        rw [decodeReturn_marked_eq_error_iff hne hmarked,
          readOnlyType_eq_error_iff]
        exact Or.inr ⟨t, rest, ht, htext, hrest, rfl⟩

/-! ## Methods -/

/-- A descriptor is cut at its first closing bracket. -/
theorem decodeMethod_closed_eq_error_iff {arguments : Text}
    (hclosing : ')' ∉ arguments) (result : Text) {f : Fault} :
    decodeMethod ('(' :: (arguments ++ ')' :: result)) = .error f ↔
      readTypes 1 arguments = .error f ∨
        (∃ types, readTypes 1 arguments = .ok types) ∧
          decodeReturn (utf8Length ('(' :: (arguments ++ [')']))) result =
            .error f := by
  have hspan := decide_ne_of_notMem hclosing
  have hstops : Stops (· ≠ ')') (')' :: result) := by simp
  have hstart : utf8Length ('(' :: (arguments ++ [')'])) =
      arguments.utf8Length + 2 := by
    have hopening : '('.utf8Size = 1 := by decide
    have hend : ')'.utf8Size = 1 := by decide
    simp only [utf8Length_cons, utf8Length_append, utf8Length_nil, hopening,
      hend]
    omega
  rw [hstart, decodeMethod, dropWhile_span hspan hstops,
    takeWhile_span hspan hstops]
  dsimp only
  rw [except_bind_eq_error_iff]
  refine or_congr_right ⟨?_, ?_⟩
  · rintro ⟨types, htypes, hresult⟩
    rcases except_bind_eq_error_iff.mp hresult with hresult | ⟨_, _, hpure⟩
    · exact ⟨⟨types, htypes⟩, hresult⟩
    · cases hpure
  · rintro ⟨⟨types, htypes⟩, hresult⟩
    exact ⟨types, htypes, except_bind_eq_error_iff.mpr (Or.inl hresult)⟩

theorem decodeMethod_unopened {raw : Text} (hne : raw ≠ [])
    (hopening : raw.head? ≠ some '(') :
    decodeMethod raw = .error (.missingOpenParen 0) := by
  refine decodeMethod.eq_3 raw hne ?_
  rintro body rfl
  exact hopening rfl

theorem decodeMethod_unclosed {body : Text} (hclosing : ')' ∉ body) :
    decodeMethod ('(' :: body) = .error (.missingCloseParen 0) := by
  have hdrop : body.dropWhile (· ≠ ')') = [] :=
    List.dropWhile_eq_nil_iff.mpr (decide_ne_of_notMem hclosing)
  rw [decodeMethod, hdrop]

/-- The fault does not lie in the brackets around the arguments. -/
def Fault.IsInner : Fault → Prop
  | .empty => False
  | .missingOpenParen _ => False
  | .missingCloseParen _ => False
  | _ => True

theorem Fault.IsInner.ne {f : Fault} (h : f.IsInner) :
    f ≠ .empty ∧ f ≠ .missingOpenParen 0 ∧ f ≠ .missingCloseParen 0 := by
  refine ⟨?_, ?_, ?_⟩ <;>
    · rintro rfl
      exact h

theorem Lacks.isInner {start : ℕ} {u : Text} {f : Fault} (h : Lacks start u f) :
    f.IsInner := by
  cases h <;> trivial

theorem SpoilsResult.isInner {start : ℕ} {result : Text} {f : Fault}
    (h : SpoilsResult start result f) : f.IsInner := by
  cases h with
  | missing => trivial
  | unmarked => trivial
  | token _ _ h => exact h.isInner
  | trailing => trivial

theorem isInner_of_closed {arguments result : Text} {f : Fault}
    (hclosing : ')' ∉ arguments)
    (h : decodeMethod ('(' :: (arguments ++ ')' :: result)) = .error f) :
    f.IsInner := by
  rcases (decodeMethod_closed_eq_error_iff hclosing result).mp h with
    htypes | ⟨_, hresult⟩
  · obtain ⟨_, _, _, _, hlacks⟩ := exists_lacks_of_readTypes htypes
    exact hlacks.isInner
  · exact (decodeReturn_eq_error_iff.mp hresult).isInner

/-! ## The account of a fault -/

/-- The fault of a text that stands from `start` to `stop` and starts with no
token. -/
structure NamesTokenFault (start stop : ℕ) (u : Text) (f : Fault) : Prop where
  dangling : f = .danglingArray start ↔ elementPos start u = stop
  unnamed : f = .emptyObjectName (elementPos start u) ↔
    ['L', ';'] <+: behindBrackets u
  unended : f = .unterminatedObject (elementPos start u) ↔
    (behindBrackets u).head? = some 'L' ∧ ';' ∉ behindBrackets u
  only : f = .danglingArray start ∨ f = .emptyObjectName (elementPos start u) ∨
    f = .unterminatedObject (elementPos start u)

theorem elementPos_add (start : ℕ) (u : Text) :
    elementPos start u + (behindBrackets u).utf8Length =
      start + u.utf8Length := by
  rw [elementPos, behindBrackets, Nat.add_assoc, ← utf8Length_append,
    List.takeWhile_append_dropWhile]

theorem Lacks.namesTokenFault {start : ℕ} {u : Text} {f : Fault}
    (h : Lacks start u f) :
    NamesTokenFault start (start + u.utf8Length) u f := by
  have hend : elementPos start u = start + u.utf8Length ↔
      behindBrackets u = [] := by
    rw [← elementPos_add, ← utf8Length_eq_zero_iff]
    omega
  cases h with
  | element hbody =>
      refine ⟨by simp [hend, hbody], by simp [hbody], by simp [hbody], by simp⟩
  | name after hbody =>
      refine ⟨by simp [hend, hbody], by simp [hbody], by simp [hbody], by simp⟩
  | ending behind hbody hending =>
      have hnamed : ¬ ['L', ';'] <+: behindBrackets u := by
        rw [hbody]
        rintro ⟨after, hafter⟩
        rw [← (List.cons.inj hafter).2] at hending
        simp at hending
      refine ⟨by simp [hend, hbody], by simp [hnamed], ?_, by simp⟩
      simp [hbody, hending]

/-- The fault of a result that stands from `start` to `stop`. -/
structure NamesResultFault (start stop : ℕ) (result : Text) (f : Fault) :
    Prop where
  missing : f = .missingReturn start ↔ result = []
  unmarked : f = .returnWithoutMarker start ↔ ';' ∈ result ∧ 'L' ∉ result
  token : result ≠ [] → ¬ (';' ∈ result ∧ 'L' ∉ result) →
    ¬ StartsWithToken result → NamesTokenFault start stop result f
  trailing : result ≠ [] → ¬ (';' ∈ result ∧ 'L' ∉ result) →
    ∀ (t : Token) (rest : Text), t.element.IsLegible →
      result = t.text ++ rest →
        rest ≠ [] ∧ f = .trailingInput (start + utf8Length t.text)

theorem SpoilsResult.namesResultFault {start : ℕ} {result : Text} {f : Fault}
    (h : SpoilsResult start result f) :
    NamesResultFault start (start + result.utf8Length) result f := by
  cases h with
  | missing h =>
      exact ⟨by simp [h], by simp [h], fun hne => absurd h hne,
        fun hne => absurd h hne⟩
  | unmarked h =>
      have hne : result ≠ [] := List.ne_nil_of_mem h.1
      exact ⟨by simp [hne], by simp [h], fun _ hmarked => absurd h hmarked,
        fun _ hmarked => absurd h hmarked⟩
  | token hne hmarked h =>
      have hnames := h.namesTokenFault
      refine ⟨?_, ?_, fun _ _ _ => hnames, fun _ _ t rest ht htext =>
        absurd ⟨t, rest, ht, htext⟩ h.not_startsWithToken⟩
      · rcases hnames.only with rfl | rfl | rfl <;> simp [hne]
      · rcases hnames.only with rfl | rfl | rfl <;> simp only [hmarked] <;> simp
  | trailing hne hmarked t rest ht htext hrest =>
      refine ⟨by simp [hne], by simp only [hmarked]; simp,
        fun _ _ hnone => absurd ⟨t, rest, ht, htext⟩ hnone, ?_⟩
      intro _ _ t' rest' ht' htext'
      obtain ⟨rfl, rfl⟩ :=
        Token.text_append_inj ht ht' (htext.symm.trans htext')
      exact ⟨hrest, rfl⟩

/-- The fault of a descriptor.  The row of `argument` is the longest one, so
there is no fault ahead of it, and what follows the closing bracket plays no
part. -/
structure NamesLeftmostFault (raw : Text) (f : Fault) : Prop where
  empty : f = .empty ↔ raw = []
  unopened : f = .missingOpenParen 0 ↔ raw ≠ [] ∧ raw.head? ≠ some '('
  unclosed : f = .missingCloseParen 0 ↔ raw.head? = some '(' ∧ ')' ∉ raw
  argument : ∀ arguments result, raw = '(' :: (arguments ++ ')' :: result) →
    ')' ∉ arguments → ¬ IsRow arguments →
      ∃ row rest, arguments = row ++ rest ∧ IsLongestRow row arguments ∧
        NamesTokenFault (utf8Length ('(' :: row))
          (utf8Length ('(' :: arguments)) rest f ∧
        ∀ other, decodeMethod ('(' :: (arguments ++ ')' :: other)) = .error f
  result : ∀ arguments result, raw = '(' :: (arguments ++ ')' :: result) →
    ')' ∉ arguments → IsRow arguments →
      NamesResultFault (utf8Length ('(' :: (arguments ++ [')'])))
        raw.utf8Length result f

theorem namesLeftmostFault_argument {arguments result : Text} {f : Fault}
    (hclosing : ')' ∉ arguments) (hrow : ¬ IsRow arguments)
    (h : decodeMethod ('(' :: (arguments ++ ')' :: result)) = .error f) :
    ∃ row rest, arguments = row ++ rest ∧ IsLongestRow row arguments ∧
      NamesTokenFault (utf8Length ('(' :: row)) (utf8Length ('(' :: arguments))
        rest f ∧
      ∀ other, decodeMethod ('(' :: (arguments ++ ')' :: other)) = .error f := by
  have htypes : readTypes 1 arguments = .error f := by
    rcases (decodeMethod_closed_eq_error_iff hclosing result).mp h with
      htypes | ⟨⟨types, htypes⟩, _⟩
    · exact htypes
    · obtain ⟨tokens, htokens, rfl, _⟩ := exists_row_of_readTypes htypes
      exact absurd (isRow_rowText htokens hclosing) hrow
  obtain ⟨tokens, rest, htokens, rfl, hlacks⟩ :=
    exists_lacks_of_readTypes htypes
  have hsize : '('.utf8Size = 1 := by decide
  have hrowClosing : ')' ∉ rowText tokens := fun hmem =>
    hclosing (List.mem_append_left rest hmem)
  have hnames := hlacks.namesTokenFault
  rw [Nat.add_assoc, ← utf8Length_append, ← hsize, ← utf8Length_cons,
    ← utf8Length_cons] at hnames
  exact ⟨rowText tokens, rest, rfl,
    isLongestRow_rowText htokens hlacks.not_startsWithToken hrowClosing, hnames,
    fun other =>
      (decodeMethod_closed_eq_error_iff hclosing other).mpr (Or.inl htypes)⟩

theorem namesLeftmostFault_result {arguments result : Text} {f : Fault}
    (hclosing : ')' ∉ arguments) (hrow : IsRow arguments)
    (h : decodeMethod ('(' :: (arguments ++ ')' :: result)) = .error f) :
    NamesResultFault (utf8Length ('(' :: (arguments ++ [')'])))
      (utf8Length ('(' :: (arguments ++ ')' :: result))) result f := by
  have hdecode : decodeReturn (utf8Length ('(' :: (arguments ++ [')']))) result =
      .error f := by
    rcases (decodeMethod_closed_eq_error_iff hclosing result).mp h with
      htypes | ⟨_, hresult⟩
    · obtain ⟨tokens, htokens, rfl⟩ := hrow
      rw [readTypes_rowText fun t ht =>
        (Element.isArgument_iff.mp (htokens t ht)).1] at htypes
      cases htypes
    · exact hresult
  have hraw : '(' :: (arguments ++ ')' :: result) =
      '(' :: (arguments ++ [')']) ++ result := by simp
  rw [hraw, utf8Length_append]
  exact (decodeReturn_eq_error_iff.mp hdecode).namesResultFault

/-- What the brackets around the arguments of a malformed descriptor say about
its fault. -/
inductive HasBrackets (raw : Text) : Fault → Prop
  | empty (h : raw = []) : HasBrackets raw .empty
  | unopened (hne : raw ≠ []) (hopening : raw.head? ≠ some '(') :
    HasBrackets raw (.missingOpenParen 0)
  | unclosed (hopening : raw.head? = some '(') (hclosing : ')' ∉ raw) :
    HasBrackets raw (.missingCloseParen 0)
  | both (hopening : raw.head? = some '(') (hclosing : ')' ∈ raw) {f : Fault}
    (h : f.IsInner) : HasBrackets raw f

theorem hasBrackets_of_decodeMethod {raw : Text} {f : Fault}
    (h : decodeMethod raw = .error f) : HasBrackets raw f := by
  cases raw with
  | nil =>
      cases h
      exact .empty rfl
  | cons c body =>
      by_cases hc : c = '('
      · subst hc
        by_cases hclosing : ')' ∈ body
        · obtain ⟨arguments, result, rfl, hnot⟩ :=
            List.eq_append_cons_of_mem hclosing
          exact .both rfl (by simp) (isInner_of_closed hnot h)
        · rw [decodeMethod_unclosed hclosing] at h
          cases h
          exact .unclosed rfl (by simpa using hclosing)
      · have hopening : (c :: body).head? ≠ some '(' := by simpa using hc
        rw [decodeMethod_unopened (by simp) hopening] at h
        cases h
        exact .unopened (by simp) hopening

/-- Every fault is the leftmost one, at its byte. -/
theorem decodeMethod_namesLeftmostFault {raw : Text} {f : Fault}
    (h : decodeMethod raw = .error f) : NamesLeftmostFault raw f := by
  have hargument := fun arguments result
      (hraw : raw = '(' :: (arguments ++ ')' :: result))
      (hclosing : ')' ∉ arguments) (hrow : ¬ IsRow arguments) =>
    namesLeftmostFault_argument hclosing hrow (hraw ▸ h)
  have hresult : ∀ arguments result, raw = '(' :: (arguments ++ ')' :: result) →
      ')' ∉ arguments → IsRow arguments →
        NamesResultFault (utf8Length ('(' :: (arguments ++ [')'])))
          raw.utf8Length result f := by
    rintro arguments result rfl hclosing hrow
    exact namesLeftmostFault_result hclosing hrow h
  cases hasBrackets_of_decodeMethod h with
  | empty hempty =>
      exact ⟨by simp [hempty], by simp [hempty], by simp [hempty], hargument,
        hresult⟩
  | unopened hne hopening =>
      exact ⟨by simp [hne], by simp [hne, hopening], by simp [hopening],
        hargument, hresult⟩
  | unclosed hopening hclosing =>
      have hne : raw ≠ [] := by
        rintro rfl
        cases hopening
      exact ⟨by simp [hne], by simp [hopening], by simp [hopening, hclosing],
        hargument, hresult⟩
  | both hopening hclosing hinner =>
      have hne : raw ≠ [] := List.ne_nil_of_mem hclosing
      obtain ⟨hempty, hunopened, hunclosed⟩ := hinner.ne
      exact ⟨by simp [hempty, hne], by simp [hunopened, hopening],
        by simp [hunclosed, hclosing], hargument, hresult⟩

/-- An argument without an end behind one of two bytes and one in brackets. -/
theorem unendedArgument_namesLeftmostFault :
    decodeMethod "(É[I[LÉ)".toList = .error (.unterminatedObject 6) ∧
      NamesLeftmostFault "(É[I[LÉ)".toList (.unterminatedObject 6) :=
  ⟨by decide +kernel, decodeMethod_namesLeftmostFault (by decide +kernel)⟩

end Descriptor
end Stubgen

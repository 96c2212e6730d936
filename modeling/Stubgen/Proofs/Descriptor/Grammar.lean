import Stubgen.Descriptor.Decode
import Stubgen.Proofs.Outcome
import Stubgen.Proofs.Text.Span

/-!
# The grammar of descriptors

A descriptor is a row of tokens.  A token is a run of opening brackets in front
of an element, and an element is either the name of a class between `L` and `;`
or one character.  This module states that grammar without a reader, and proves
that the reader of one token and the reader of a row of tokens accept exactly
the texts of the grammar, whatever the position at which they stand.
-/

namespace Stubgen
namespace Descriptor

/-- What stands behind the brackets of a token. -/
inductive Element
  | object (name : Text)
  | code (c : Char)

namespace Element

def text : Element → Text
  | object name => 'L' :: name ++ [';']
  | code c => [c]

/-- What a decoded type keeps of an element. -/
def name : Element → Text
  | object name => name
  | code c => [c]

/-- The elements that can be told from the text they stand in. -/
def IsLegible : Element → Prop
  | object name => name ≠ [] ∧ ';' ∉ name
  | code c => c ≠ '[' ∧ c ≠ 'L'

end Element

/-- One type of a descriptor as it is spelled. -/
structure Token where
  brackets : ℕ
  element : Element

namespace Token

def prefixText (t : Token) : Text := List.replicate t.brackets '['

def text (t : Token) : Text := t.prefixText ++ t.element.text

/-- The decoded token; the number of brackets is dropped. -/
def type (t : Token) : TypeName := ⟨t.element.name, decide (0 < t.brackets)⟩

theorem mem_prefixText {t : Token} {c : Char} (hc : c ∈ t.prefixText) :
    c = '[' :=
  List.eq_of_mem_replicate hc

theorem prefixText_isEmpty (t : Token) :
    (!t.prefixText.isEmpty) = decide (0 < t.brackets) := by
  cases hbrackets : t.brackets <;>
    simp [prefixText, hbrackets, List.replicate_succ]

end Token

/-! ## One token -/

theorem Element.stops_text {e : Element} (he : e.IsLegible) (rest : Text) :
    Text.Stops (· = '[') (e.text ++ rest) := by
  cases e with
  | object name => simp [Element.text]
  | code c => simpa [Element.text] using he.1

theorem Token.takeWhile_text_append {t : Token} (ht : t.element.IsLegible)
    (rest : Text) :
    (t.text ++ rest).takeWhile (· = '[') = t.prefixText := by
  rw [Token.text, List.append_assoc]
  apply Text.takeWhile_span _ (Element.stops_text ht rest)
  intro c hc
  simpa using Token.mem_prefixText hc

theorem Token.dropWhile_text_append {t : Token} (ht : t.element.IsLegible)
    (rest : Text) :
    (t.text ++ rest).dropWhile (· = '[') = t.element.text ++ rest := by
  rw [Token.text, List.append_assoc]
  apply Text.dropWhile_span _ (Element.stops_text ht rest)
  intro c hc
  simpa using Token.mem_prefixText hc

/-- A legible token is read off the front of any text, at any position. -/
theorem readType_text_append {t : Token} (ht : t.element.IsLegible)
    (pos : ℕ) (rest : Text) :
    readType pos (t.text ++ rest) = .ok (t.type, rest) := by
  have htake := Token.takeWhile_text_append ht rest
  have hdrop := Token.dropWhile_text_append ht rest
  unfold readType
  simp only [htake, hdrop, Token.prefixText_isEmpty, Token.type]
  cases helement : t.element with
  | object name =>
      rw [helement] at ht
      have hname := Text.decide_ne_of_notMem ht.2
      have hsemicolon : Text.Stops (· ≠ ';') (';' :: rest) := by simp
      have hnameDrop :
          (name ++ ';' :: rest).dropWhile (· ≠ ';') = ';' :: rest :=
        Text.dropWhile_span hname hsemicolon
      have hnameTake :
          (name ++ ';' :: rest).takeWhile (· ≠ ';') = name :=
        Text.takeWhile_span hname hsemicolon
      simp only [Element.text, Element.name, List.cons_append,
        List.append_assoc, List.nil_append]
      rw [hnameDrop, hnameTake]
      simp [ht.1]
  | code c =>
      rw [helement] at ht
      simp only [Element.text, Element.name, List.cons_append,
        List.nil_append]
      split
      next heq => simp at heq
      next heq =>
        simp only [List.cons.injEq] at heq
        exact absurd heq.1 ht.2
      next heq =>
        simp only [List.cons.injEq] at heq
        rw [heq.1, heq.2]

theorem takeWhile_bracket (u : Text) :
    u.takeWhile (· = '[') =
      List.replicate (u.takeWhile (· = '[')).length '[' := by
  apply List.eq_replicate_of_mem
  intro c hc
  simpa using List.mem_takeWhile_imp hc

/-- What is read as a type is the text of a legible token. -/
theorem exists_token_of_readType {pos : ℕ} {u rest : Text} {type : TypeName}
    (hread : readType pos u = .ok (type, rest)) :
    ∃ t : Token, t.element.IsLegible ∧ u = t.text ++ rest ∧
      type = t.type := by
  have hsplit :
      u.takeWhile (· = '[') ++ u.dropWhile (· = '[') = u :=
    List.takeWhile_append_dropWhile
  have hstops := Text.stops_dropWhile (· = '[') u
  have hopening := takeWhile_bracket u
  generalize hk : (u.takeWhile (· = '[')).length = k at hopening
  unfold readType at hread
  dsimp only at hread
  have harray : (!(u.takeWhile (· = '[')).isEmpty) = decide (0 < k) := by
    rw [hopening]
    exact Token.prefixText_isEmpty ⟨k, .code 'V'⟩
  rw [harray] at hread
  rw [hopening] at hsplit
  split at hread
  next => cases hread
  next body hbody =>
    split at hread
    next => cases hread
    next semicolon after hafter =>
      split at hread
      next => cases hread
      next hname =>
        have hsemicolon : semicolon = ';' := by
          have hstop := Text.stops_dropWhile (· ≠ ';') body
          rw [hafter] at hstop
          simpa using hstop
        have hcut :
            body.takeWhile (· ≠ ';') ++ body.dropWhile (· ≠ ';') = body :=
          List.takeWhile_append_dropWhile
        rw [hafter, hsemicolon] at hcut
        cases hread
        refine ⟨⟨k, .object (body.takeWhile (· ≠ ';'))⟩, ⟨?_, ?_⟩, ?_, rfl⟩
        · simpa using hname
        · intro hmem
          simpa using List.mem_takeWhile_imp hmem
        · calc
            u = List.replicate k '[' ++ 'L' :: body := by
              rw [← hbody, hsplit]
            _ = List.replicate k '[' ++
                  'L' :: (body.takeWhile (· ≠ ';') ++ ';' :: rest) := by
              rw [hcut]
            _ = _ := by
              simp [Token.text, Token.prefixText, Element.text]
  next c tail hne hdrop =>
    cases hread
    rw [hdrop] at hstops hsplit
    refine ⟨⟨k, .code c⟩, ⟨by simpa using hstops, ?_⟩, ?_, rfl⟩
    · intro hc
      exact hne hc
    · rw [← hsplit]
      simp [Token.text, Token.prefixText, Element.text]

/-! ## Rows of tokens -/

def rowText (tokens : List Token) : Text := tokens.flatMap Token.text

@[simp] theorem rowText_nil : rowText [] = [] := rfl

@[simp] theorem rowText_cons (t : Token) (tokens : List Token) :
    rowText (t :: tokens) = t.text ++ rowText tokens := rfl

theorem Token.text_ne_nil (t : Token) : t.text ≠ [] := by
  cases helement : t.element <;>
    simp [Token.text, Element.text, helement]

theorem readTypes_rowText {tokens : List Token}
    (htokens : ∀ t ∈ tokens, t.element.IsLegible) (pos : ℕ) :
    readTypes pos (rowText tokens) = .ok (tokens.map Token.type) := by
  induction tokens generalizing pos with
  | nil =>
      rw [readTypes]
      rfl
  | cons t tokens ih =>
      have hread := readType_text_append (htokens t (by simp)) pos
        (rowText tokens)
      have hnonempty : (t.text ++ rowText tokens).isEmpty = false := by
        simp [t.text_ne_nil]
      rw [rowText_cons, readTypes, if_neg (by simp [hnonempty])]
      split
      next fault hfault =>
        rw [hread] at hfault
        cases hfault
      next type rest hok =>
        rw [hread] at hok
        cases hok
        rw [ih (fun t ht => htokens t (by simp [ht]))]
        rfl

/-- The induction follows the reader: every step takes one token off. -/
theorem exists_row_of_readTypes {pos : ℕ} {u : Text}
    {types : List TypeName} (hread : readTypes pos u = .ok types) :
    ∃ tokens : List Token, (∀ t ∈ tokens, t.element.IsLegible) ∧
      u = rowText tokens ∧ types = tokens.map Token.type := by
  fun_induction readTypes pos u generalizing types with
  | case1 pos u hempty =>
      cases hread
      exact ⟨[], by simp, by simpa using hempty, rfl⟩
  | case2 pos u hempty fault hfault =>
      cases hread
  | case3 pos u hempty type rest hok ih =>
      obtain ⟨t, ht, htext, htype⟩ := exists_token_of_readType hok
      obtain ⟨others, hrest, hothers⟩ := except_map_eq_ok_iff.mp hread
      obtain ⟨tokens, htokens, hrow, htypes⟩ := ih hrest
      refine ⟨t :: tokens, ?_, ?_, ?_⟩
      · simpa using And.intro ht htokens
      · rw [rowText_cons, ← hrow, htext]
      · rw [← hothers, List.map_cons, ← htypes, htype]

/-! ## Unambiguity -/

/-- Behind a legible token nothing is left open: the token and the rest of the
text are determined. -/
theorem Token.text_append_inj {t t' : Token} {rest rest' : Text}
    (ht : t.element.IsLegible) (ht' : t'.element.IsLegible)
    (heq : t.text ++ rest = t'.text ++ rest') :
    t = t' ∧ rest = rest' := by
  have hread := readType_text_append ht 0 rest
  rw [heq, readType_text_append ht' 0 rest'] at hread
  simp only [Except.ok.injEq, Prod.mk.injEq] at hread
  obtain ⟨htype, rfl⟩ := hread
  have hopening := Token.takeWhile_text_append ht rest'
  rw [heq, Token.takeWhile_text_append ht' rest'] at hopening
  have hbrackets : t.brackets = t'.brackets := by
    simpa [Token.prefixText] using (congrArg List.length hopening).symm
  have hdrop := Token.dropWhile_text_append ht rest'
  rw [heq, Token.dropWhile_text_append ht' rest'] at hdrop
  have helementText : t'.element.text = t.element.text :=
    List.append_cancel_right hdrop
  have hname : t'.element.name = t.element.name :=
    congrArg TypeName.name htype
  refine ⟨?_, rfl⟩
  obtain ⟨brackets, element⟩ := t
  obtain ⟨brackets', element'⟩ := t'
  cases hbrackets
  cases element <;> cases element' <;>
    simp_all [Element.text, Element.name]

theorem rowText_inj {tokens tokens' : List Token}
    (htokens : ∀ t ∈ tokens, t.element.IsLegible)
    (htokens' : ∀ t ∈ tokens', t.element.IsLegible)
    (heq : rowText tokens = rowText tokens') : tokens = tokens' := by
  induction tokens generalizing tokens' with
  | nil =>
      cases tokens' with
      | nil => rfl
      | cons t' tokens' =>
          simp [t'.text_ne_nil] at heq
  | cons t tokens ih =>
      cases tokens' with
      | nil => simp [t.text_ne_nil] at heq
      | cons t' tokens' =>
          obtain ⟨rfl, hrest⟩ := Token.text_append_inj
            (htokens t (by simp)) (htokens' t' (by simp)) heq
          rw [ih (fun t ht => htokens t (by simp [ht]))
            (fun t ht => htokens' t (by simp [ht])) hrest]

end Descriptor
end Stubgen

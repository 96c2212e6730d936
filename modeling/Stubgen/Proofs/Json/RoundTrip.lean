import Stubgen.Proofs.Json.Strings
import Stubgen.Proofs.Text.Digits
import Stubgen.Proofs.Text.Span

/-!
# Values of JSON are read back

The text of a value over several lines spells that value and no other.  Reading
goes down into the value as writing does: a number ends where something stands
that it cannot go on with, a string at its quote, and an array or an object at its
bracket, which no value starts with.
-/

namespace Stubgen.Json

open Text (Stops)

/-! ## Numbers -/

/-- The characters with which a number may go on. -/
def continuesNumber (c : Char) : Bool :=
  c.isDigit || c = '.' || c = 'e' || c = 'E'

theorem stops_isDigit {rest : Text} (hrest : Stops continuesNumber rest) :
    Stops Char.isDigit rest := by
  intro c hc
  have hnot := hrest c hc
  simp only [continuesNumber, Bool.or_eq_false_iff] at hnot
  exact hnot.1.1.1

theorem readDigits_append (atEnd : Cause) (n : ℕ) {rest : Text}
    (hrest : Stops Char.isDigit rest) :
    readDigits atEnd (Text.ofNat n ++ rest) = .ok (Text.ofNat n, rest) := by
  have hdigits : ∀ c ∈ Text.ofNat n, c.isDigit = true :=
    fun c hc => Text.isDigit_of_mem_ofNat hc
  obtain ⟨first, others, hne⟩ :=
    List.exists_cons_of_ne_nil (Text.ofNat_ne_nil n)
  unfold readDigits
  rw [Text.takeWhile_span hdigits hrest, Text.dropWhile_span hdigits hrest, hne]

/-- A digit is no sign. -/
theorem exists_digit (n : ℕ) : ∃ first others,
    Text.ofNat n = first :: others ∧ first.isDigit = true := by
  obtain ⟨first, others, hne⟩ :=
    List.exists_cons_of_ne_nil (Text.ofNat_ne_nil n)
  refine ⟨first, others, hne, Text.isDigit_of_mem_ofNat (n := n) ?_⟩
  rw [hne]
  exact List.mem_cons_self

theorem readExponent_integerText (atEnd : Cause) (k : ℤ) {rest : Text}
    (hrest : Stops Char.isDigit rest) :
    readExponent atEnd ('e' :: (integerText k ++ rest)) =
      .ok (some k, rest) := by
  unfold readExponent
  simp only [decide_true, Bool.true_or, if_true]
  cases k with
  | ofNat n =>
      have hdigits := readDigits_append atEnd n hrest
      obtain ⟨first, others, hne, hdigit⟩ := exists_digit n
      rw [integerText]
      rw [hne] at hdigits ⊢
      rw [List.cons_append] at hdigits ⊢
      split
      next heq =>
        cases heq
        cases hdigit
      next heq =>
        cases heq
        cases hdigit
      next =>
        rw [hdigits, ← hne]
        simp [Except.map]
  | negSucc n =>
      have hdigits := readDigits_append atEnd (n + 1) hrest
      simp only [integerText, List.cons_append, hdigits, Except.map,
        Text.foldDigits_ofNat, if_true]
      rfl

theorem readExponent_none (atEnd : Cause) {rest : Text}
    (hrest : Stops continuesNumber rest) :
    readExponent atEnd rest = .ok (none, rest) := by
  unfold readExponent
  split
  next c rest =>
    have hnot := Text.stops_cons.mp hrest
    simp only [continuesNumber, Bool.or_eq_false_iff] at hnot
    rw [if_neg (by simp [hnot])]
  next => rfl

theorem leadsWithZero_ofNat (n : ℕ) :
    (decide ((Text.ofNat n).head? = some '0') &&
      decide (1 < (Text.ofNat n).length)) = false := by
  by_cases hhead : (Text.ofNat n).head? = some '0'
  · rw [Text.eq_zero_of_head?_ofNat hhead]
    decide
  · rw [decide_eq_false hhead, Bool.false_and]

theorem readNumber_whole (atEnd : Cause) (negative : Bool) {n : ℕ}
    (hsign : negative = true → n ≠ 0) {rest : Text}
    (hrest : Stops continuesNumber rest) :
    readNumber atEnd negative (Text.ofNat n ++ rest) =
      .ok (.integer (if negative then -n else n), rest) := by
  have hpoint : ∀ after, rest ≠ '.' :: after := by
    intro after heq
    rw [heq] at hrest
    cases Text.stops_cons.mp hrest
  unfold readNumber
  rw [readDigits_append atEnd n (stops_isDigit hrest)]
  simp only [bind, Except.bind, leadsWithZero_ofNat]
  rw [if_neg Bool.false_ne_true, readExponent_none atEnd hrest]
  simp only [Text.foldDigits_ofNat]
  cases negative with
  | false => rfl
  | true =>
      rw [decide_eq_false (hsign rfl)]
      rfl

theorem readNumber_decimal (atEnd : Cause) (negative : Bool) (n : ℕ) (k : ℤ)
    {rest : Text} (hrest : Stops Char.isDigit rest) :
    readNumber atEnd negative
        (Text.ofNat n ++ 'e' :: (integerText k ++ rest)) =
      .ok (.decimal negative n k, rest) := by
  have hexponent : Stops Char.isDigit ('e' :: (integerText k ++ rest)) := by
    rw [Text.stops_cons]
    rfl
  unfold readNumber
  rw [readDigits_append atEnd n hexponent]
  simp only [bind, Except.bind, leadsWithZero_ofNat]
  rw [if_neg Bool.false_ne_true, readExponent_integerText atEnd k hrest]
  simp only [Text.foldDigits_ofNat, Option.getD_none, Option.getD_some,
    List.length_nil, Nat.cast_zero, sub_zero]
  rfl

theorem readValue_digit {c : Char} (hc : c.isDigit = true) (fuel : ℕ)
    (rest : Text) : readValue (fuel + 1) (c :: rest) =
      (readNumber .endInValue false (c :: rest)).map
        fun (n, after) => (.number n, after) := by
  unfold readValue
  split
  case h_1 heq => cases heq
  case h_9 heq =>
    cases heq
    rw [if_pos hc]
  all_goals
    rename_i heq
    cases heq
    cases hc

/-- A number is read up to where it cannot go on. -/
theorem readValue_number (x : Number) (fuel : ℕ) {rest : Text}
    (hrest : Stops continuesNumber rest) :
    readValue (fuel + 1) (x.text ++ rest) = .ok (.number x, rest) := by
  cases x with
  | integer value =>
      cases value with
      | ofNat n =>
          have hnumber := readNumber_whole .endInValue false (n := n)
            (fun h => nomatch h) hrest
          obtain ⟨first, others, hne, hdigit⟩ := exists_digit n
          rw [Number.text, integerText]
          rw [hne, List.cons_append] at hnumber ⊢
          rw [readValue_digit hdigit, hnumber]
          rfl
      | negSucc n =>
          have hnumber := readNumber_whole .endInValue true
            (fun _ => Nat.succ_ne_zero n) hrest
          rw [Number.text, integerText, List.cons_append]
          change (readNumber .endInValue true _).map _ = _
          rw [hnumber]
          rfl
  | decimal negative digits exponent =>
      have hnumber := readNumber_decimal .endInValue negative digits exponent
        (stops_isDigit hrest)
      rw [Number.text, List.append_assoc, List.append_assoc, List.cons_append]
      cases negative with
      | false =>
          obtain ⟨first, others, hne, hdigit⟩ := exists_digit digits
          rw [hne, List.cons_append] at hnumber
          rw [if_neg Bool.false_ne_true, List.nil_append, hne, List.cons_append,
            readValue_digit hdigit, hnumber]
          rfl
      | true =>
          rw [if_pos rfl, List.singleton_append]
          change (readNumber .endInValue true _).map _ = _
          rw [hnumber]
          rfl

/-! ## Values -/

mutual

/-- How deep and far reading a value goes. -/
def weight : Json → ℕ
  | array elements => weightElements elements + 1
  | object members => weightMembers members + 1
  | _ => 1

def weightElements : List Json → ℕ
  | [] => 0
  | v :: rest => weight v + weightElements rest + 1

def weightMembers : List (Text × Json) → ℕ
  | [] => 0
  | (_, v) :: rest => weight v + weightMembers rest + 1

end

/-- The characters that no value starts with: the blanks and the brackets that
close. -/
def endsValue (c : Char) : Bool :=
  c = ' ' || c = '\n' || c = '\t' || c = '\r' || c = ']' || c = '\x7d'

theorem endsValue_of_isDigit {c : Char} (hc : c.isDigit = true) :
    endsValue c = false := by
  by_contra hends
  rw [Bool.not_eq_false] at hends
  simp only [endsValue, Bool.or_eq_true, decide_eq_true_eq] at hends
  rcases hends with ((((rfl | rfl) | rfl) | rfl) | rfl) | rfl
  all_goals cases hc

theorem exists_prettyAt (level : ℕ) (v : Json) : ∃ first others,
    prettyAt level v = first :: others ∧ endsValue first = false := by
  cases v with
  | null => exact ⟨_, _, rfl, rfl⟩
  | bool value => cases value <;> exact ⟨_, _, rfl, rfl⟩
  | string value => exact ⟨_, _, rfl, rfl⟩
  | array elements =>
      cases elements with
      | nil => exact ⟨_, _, rfl, rfl⟩
      | cons v rest => exact ⟨_, _, rfl, rfl⟩
  | object members =>
      cases members with
      | nil => exact ⟨_, _, rfl, rfl⟩
      | cons m rest => exact ⟨_, _, rfl, rfl⟩
  | number value =>
      rw [prettyAt]
      cases value with
      | integer k =>
          cases k with
          | ofNat n =>
              obtain ⟨first, others, hne, hdigit⟩ := exists_digit n
              exact ⟨first, others, hne, endsValue_of_isDigit hdigit⟩
          | negSucc n => exact ⟨_, _, rfl, rfl⟩
      | decimal negative digits exponent =>
          cases negative with
          | true => exact ⟨_, _, rfl, rfl⟩
          | false =>
              obtain ⟨first, others, hne, hdigit⟩ := exists_digit digits
              refine ⟨first, others ++ 'e' :: integerText exponent, ?_,
                endsValue_of_isDigit hdigit⟩
              rw [Number.text, if_neg Bool.false_ne_true, hne]
              rfl

/-- Blanks ahead of a value are passed over, and the value is not. -/
theorem skipBlanks_prettyAt_append (level : ℕ) (v : Json) (rest : Text) :
    skipBlanks (prettyAt level v ++ rest) = prettyAt level v ++ rest := by
  obtain ⟨first, others, hpretty, hfirst⟩ := exists_prettyAt level v
  rw [hpretty]
  apply skipBlanks_of_stops
  intro c hc
  cases hc
  simp only [endsValue, Bool.or_eq_false_iff] at hfirst
  simp only [hfirst.1.1, Bool.or_false]

/-- The elements of an array with a text behind them. -/
def elementsText (level : ℕ) (elements : List Json) (after : Text) : Text :=
  skipBlanks (prettyElements level elements ++ after)

def membersText (level : ℕ) (members : List (Text × Json)) (after : Text) : Text :=
  skipBlanks (prettyMembers level members ++ after)

theorem elementsText_singleton (level : ℕ) (v : Json) (after : Text) :
    elementsText level [v] after = prettyAt level v ++ after := by
  rw [elementsText, prettyElements, List.append_assoc,
    skipBlanks_newline_append, skipBlanks_prettyAt_append]

theorem elementsText_cons (level : ℕ) (v w : Json) (rest : List Json)
    (after : Text) :
    elementsText level (v :: w :: rest) after =
      prettyAt level v ++ ',' :: (prettyElements level (w :: rest) ++ after) := by
  rw [elementsText, prettyElements, List.append_assoc, List.append_assoc,
    skipBlanks_newline_append, skipBlanks_prettyAt_append, List.cons_append]
  exact List.cons_ne_nil w rest

theorem membersText_singleton (level : ℕ) (key : Text) (v : Json)
    (after : Text) :
    membersText level [(key, v)] after =
      quote key ++ (": ".toList ++ (prettyAt level v ++ after)) := by
  rw [membersText, prettyMembers, List.append_assoc, List.append_assoc,
    List.append_assoc, skipBlanks_newline_append, skipBlanks_quote_append]

theorem membersText_cons (level : ℕ) (key : Text) (v : Json) (m : Text × Json)
    (rest : List (Text × Json)) (after : Text) :
    membersText level ((key, v) :: m :: rest) after =
      quote key ++ (": ".toList ++ (prettyAt level v ++
        ',' :: (prettyMembers level (m :: rest) ++ after))) := by
  rw [membersText, prettyMembers, List.append_assoc, List.append_assoc,
    List.append_assoc, List.append_assoc, skipBlanks_newline_append,
    skipBlanks_quote_append, List.cons_append]
  exact List.cons_ne_nil m rest

theorem stops_elementsText (level : ℕ) (v : Json) (rest : List Json)
    (after : Text) :
    Stops (· = ']') (elementsText level (v :: rest) after) := by
  obtain ⟨first, others, hpretty, hfirst⟩ := exists_prettyAt level v
  simp only [endsValue, Bool.or_eq_false_iff] at hfirst
  cases rest with
  | nil =>
      rw [elementsText_singleton, hpretty]
      exact Text.stops_cons.mpr hfirst.1.2
  | cons w rest =>
      rw [elementsText_cons, hpretty]
      exact Text.stops_cons.mpr hfirst.1.2

theorem stops_membersText (level : ℕ) (m : Text × Json)
    (rest : List (Text × Json)) (after : Text) :
    Stops (· = '\x7d') (membersText level (m :: rest) after) := by
  cases rest with
  | nil =>
      rw [membersText_singleton, quote_append]
      exact Text.stops_cons.mpr rfl
  | cons n rest =>
      rw [membersText_cons, quote_append]
      exact Text.stops_cons.mpr rfl

theorem readValue_array (fuel : ℕ) {t : Text}
    (ht : Stops (· = ']') (skipBlanks t)) :
    readValue (fuel + 1) ('[' :: t) =
      (readElements fuel (skipBlanks t)).map
        fun (vs, after) => (.array vs, after) := by
  rw [readValue]
  split
  next after heq =>
    rw [heq] at ht
    cases Text.stops_cons.mp ht
  next => rfl

theorem readValue_object (fuel : ℕ) {t : Text}
    (ht : Stops (· = '\x7d') (skipBlanks t)) :
    readValue (fuel + 1) ('\x7b' :: t) =
      (readMembers fuel (skipBlanks t)).map
        fun (ms, after) => (.object ms, after) := by
  rw [readValue]
  split
  next after heq =>
    rw [heq] at ht
    cases Text.stops_cons.mp ht
  next => rfl

theorem readKey_append (key : Text) (level : ℕ) (v : Json) (after : Text) :
    readKey (key.flatMap escapeChar ++
        '"' :: (": ".toList ++ (prettyAt level v ++ after))) =
      .ok (key, prettyAt level v ++ after) := by
  have hcolon : readColon (": ".toList ++ (prettyAt level v ++ after)) =
      .ok ((), prettyAt level v ++ after) :=
    congrArg (fun t => Except.ok ((), t))
      (skipBlanks_prettyAt_append level v after)
  rw [readKey, readString_flatMap_escapeChar]
  simp only [bind, Except.bind, hcolon]
  rfl

theorem stops_newline_append (level : ℕ) (t : Text) :
    Stops continuesNumber (newline level ++ t) :=
  Text.stops_cons.mpr rfl

mutual

/-- A value is read back with anything behind it that a number does not go on
with. -/
theorem readValue_prettyAt (v : Json) {fuel : ℕ} (hfuel : v.weight ≤ fuel)
    (level : ℕ) {rest : Text} (hrest : Stops continuesNumber rest) :
    readValue fuel (prettyAt level v ++ rest) = .ok (v, rest) := by
  cases fuel with
  | zero => cases v <;> simp [weight] at hfuel
  | succ fuel =>
      match v with
      | .null => rfl
      | .bool true => rfl
      | .bool false => rfl
      | .number x => exact readValue_number x fuel hrest
      | .string s =>
          rw [prettyAt, quote_append, readValue, readString_flatMap_escapeChar]
          rfl
      | .array [] => rfl
      | .array (w :: ws) =>
          have hread := readElements_elementsText (w :: ws)
            (List.cons_ne_nil w ws) (Nat.le_of_succ_le_succ hfuel) (level + 1)
            level rest
          have hstops := stops_elementsText (level + 1) w ws
            (newline level ++ ']' :: rest)
          rw [prettyAt, List.append_assoc, List.append_assoc,
            List.singleton_append, List.cons_append]
          rw [elementsText] at hread hstops
          rw [readValue_array fuel hstops, hread]
          rfl
      | .object [] => rfl
      | .object (m :: ms) =>
          have hread := readMembers_membersText (m :: ms)
            (List.cons_ne_nil m ms) (Nat.le_of_succ_le_succ hfuel) (level + 1)
            level rest
          have hstops := stops_membersText (level + 1) m ms
            (newline level ++ '\x7d' :: rest)
          rw [prettyAt, List.append_assoc, List.append_assoc,
            List.singleton_append, List.cons_append]
          rw [membersText] at hread hstops
          rw [readValue_object fuel hstops, hread]
          rfl

theorem readElements_elementsText (vs : List Json) (hne : vs ≠ []) {fuel : ℕ}
    (hfuel : weightElements vs ≤ fuel) (level outer : ℕ) (rest : Text) :
    readElements fuel (elementsText level vs (newline outer ++ ']' :: rest)) =
      .ok (vs, rest) := by
  cases fuel with
  | zero => cases vs <;> simp [weightElements] at hne hfuel
  | succ fuel =>
      match vs with
      | [v] =>
          have hweight : v.weight ≤ fuel := by
            simp only [weightElements] at hfuel
            omega
          have hread := readValue_prettyAt v hweight level
            (stops_newline_append outer (']' :: rest))
          have hend : skipBlanks (newline outer ++ ']' :: rest) = ']' :: rest :=
            skipBlanks_newline_append outer _
          rw [elementsText_singleton, readElements, hread]
          simp only [bind, Except.bind, hend]
          rfl
      | v :: w :: ws =>
          have hweights : v.weight ≤ fuel ∧ weightElements (w :: ws) ≤ fuel := by
            simp only [weightElements] at hfuel ⊢
            omega
          have hstops : Stops continuesNumber (',' ::
              (prettyElements level (w :: ws) ++
                (newline outer ++ ']' :: rest))) :=
            Text.stops_cons.mpr rfl
          have hread := readValue_prettyAt v hweights.1 level hstops
          have hothers := readElements_elementsText (w :: ws)
            (List.cons_ne_nil w ws) hweights.2 level outer rest
          have hcomma : ∀ t, skipBlanks (',' :: t) = ',' :: t := fun _ => rfl
          rw [elementsText] at hothers
          rw [elementsText_cons, readElements, hread]
          simp only [bind, Except.bind, hcomma, hothers]
          rfl

theorem readMembers_membersText (ms : List (Text × Json)) (hne : ms ≠ [])
    {fuel : ℕ} (hfuel : weightMembers ms ≤ fuel) (level outer : ℕ)
    (rest : Text) :
    readMembers fuel (membersText level ms (newline outer ++ '\x7d' :: rest)) =
      .ok (ms, rest) := by
  cases fuel with
  | zero => cases ms <;> simp [weightMembers] at hne hfuel
  | succ fuel =>
      match ms with
      | [(key, v)] =>
          have hweight : v.weight ≤ fuel := by
            simp only [weightMembers] at hfuel
            omega
          have hread := readValue_prettyAt v hweight level
            (stops_newline_append outer ('\x7d' :: rest))
          have hend : skipBlanks (newline outer ++ '\x7d' :: rest) =
              '\x7d' :: rest :=
            skipBlanks_newline_append outer _
          have hkey := readKey_append key level v
            (newline outer ++ '\x7d' :: rest)
          rw [membersText_singleton, quote_append, readMembers]
          simp only [bind, Except.bind, hkey, hread, hend]
          rfl
      | (key, v) :: m :: others =>
          have hweights : v.weight ≤ fuel ∧ weightMembers (m :: others) ≤ fuel := by
            simp only [weightMembers] at hfuel ⊢
            omega
          have hstops : Stops continuesNumber (',' ::
              (prettyMembers level (m :: others) ++
                (newline outer ++ '\x7d' :: rest))) :=
            Text.stops_cons.mpr rfl
          have hread := readValue_prettyAt v hweights.1 level hstops
          have hothers := readMembers_membersText (m :: others)
            (List.cons_ne_nil m others) hweights.2 level outer rest
          have hcomma : ∀ t, skipBlanks (',' :: t) = ',' :: t := fun _ => rfl
          have hkey := readKey_append key level v
            (',' :: (prettyMembers level (m :: others) ++
              (newline outer ++ '\x7d' :: rest)))
          rw [membersText] at hothers
          rw [membersText_cons, quote_append, readMembers]
          simp only [bind, Except.bind, hkey, hread, hcomma, hothers]
          rfl

end

/-! ## The fuel of the reader -/

mutual

/-- There is a character for each step. -/
theorem weight_le_length (v : Json) (level : ℕ) :
    v.weight ≤ (prettyAt level v).length := by
  match v with
  | .null => exact Nat.le_add_left 1 3
  | .bool true => exact Nat.le_add_left 1 3
  | .bool false => exact Nat.le_add_left 1 4
  | .number x =>
      obtain ⟨first, others, hpretty, _⟩ := exists_prettyAt level (.number x)
      rw [hpretty]
      exact Nat.le_add_left 1 others.length
  | .string s => exact Nat.le_add_left 1 _
  | .array [] => exact Nat.le_add_left 1 1
  | .array (w :: ws) =>
      have helements := weightElements_le_length (w :: ws) (level + 1)
      rw [weight, prettyAt]
      simp only [List.length_append, List.length_cons]
      omega
  | .object [] => exact Nat.le_add_left 1 1
  | .object (m :: ms) =>
      have hmembers := weightMembers_le_length (m :: ms) (level + 1)
      rw [weight, prettyAt]
      simp only [List.length_append, List.length_cons]
      omega

theorem weightElements_le_length (vs : List Json) (level : ℕ) :
    weightElements vs ≤ (prettyElements level vs).length := by
  match vs with
  | [] => exact Nat.zero_le _
  | [v] =>
      have hv := weight_le_length v level
      rw [prettyElements]
      simp only [weightElements, newline, List.length_append, List.length_cons]
      omega
  | v :: w :: ws =>
      have hv := weight_le_length v level
      have hrest := weightElements_le_length (w :: ws) level
      rw [prettyElements, weightElements]
      · simp only [newline, List.length_append, List.length_cons]
        omega
      · exact List.cons_ne_nil w ws

theorem weightMembers_le_length (ms : List (Text × Json)) (level : ℕ) :
    weightMembers ms ≤ (prettyMembers level ms).length := by
  match ms with
  | [] => exact Nat.zero_le _
  | [(key, v)] =>
      have hv := weight_le_length v level
      rw [prettyMembers]
      simp only [weightMembers, newline, List.length_append, List.length_cons]
      omega
  | (key, v) :: m :: others =>
      have hv := weight_le_length v level
      have hrest := weightMembers_le_length (m :: others) level
      rw [prettyMembers, weightMembers]
      · simp only [newline, List.length_append, List.length_cons]
        omega
      · exact List.cons_ne_nil m others

end

/-- The text of a value spells it, with blanks behind it or without. -/
theorem parse?_pretty_append (v : Json) {blanks : Text}
    (hblanks : skipBlanks blanks = []) (hstops : Stops continuesNumber blanks) :
    parse? (v.pretty ++ blanks) = some v := by
  have hfuel : v.weight ≤ 2 * (v.pretty ++ blanks).length + 1 := by
    have hlength : v.weight ≤ v.pretty.length := v.weight_le_length 0
    rw [List.length_append]
    omega
  have hread := readValue_prettyAt v hfuel 0 hstops
  unfold parse?
  rw [← pretty] at hread
  rw [pretty, skipBlanks_prettyAt_append, ← pretty, hread]
  simp only [hblanks]
  rfl

end Stubgen.Json

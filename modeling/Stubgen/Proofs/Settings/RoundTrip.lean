import Stubgen.Proofs.Json.Strings
import Stubgen.Proofs.Text.Utf8
import Stubgen.Settings.File

/-!
# Settings are read back

The text of some settings has one member for each setting that is made, under a
name of its own and with a string for its value.  Reading a member puts the
setting into the draft, so the members give back the settings.
-/

namespace Stubgen.Settings

open Json (quote skipBlanks readString readColon prettyMembers newline quote_append
  skipBlanks_of_stops skipBlanks_quote_append skipBlanks_newline_append)

/-! ## Settings that are made -/

/-- A setting that is made. -/
inductive Made
  | javaHome (path : Text)
  | classPath (path : Text)
  | skip (pattern : Text)
  | profile (profile : Python.Profile)
  deriving DecidableEq

namespace Made

def slot : Made → Slot
  | javaHome _ => .javaHome
  | classPath _ => .classPath
  | skip _ => .skip
  | profile _ => .profile

/-- The string that stands for the setting. -/
def value : Made → Text
  | javaHome path => path
  | classPath path => path
  | skip pattern => pattern
  | profile p => p.name

def member (x : Made) : Text × Json := (x.slot.name, .string x.value)

/-- The draft with the setting. -/
def put (d : Draft) : Made → Draft
  | javaHome path => { d with javaHome := some (some path) }
  | classPath path => { d with classPath := some (some path) }
  | skip pattern => { d with skip := some (some pattern) }
  | profile p => { d with profile := some p }

theorem isSet_put (d : Draft) (x : Made) (slot : Slot) :
    slot.isSet (x.put d) = (decide (slot = x.slot) || slot.isSet d) := by
  cases x <;> cases slot <;> rfl

end Made

/-- The settings that are made, in the order in which they are written. -/
def made (s : Settings) : List Made :=
  s.javaHome.toList.map .javaHome ++ s.classPath.toList.map .classPath ++
    s.skip.toList.map .skip ++ [.profile s.profile]

theorem toJson_eq (s : Settings) : s.toJson = .object (s.made.map Made.member) := by
  simp only [toJson, made, textMember, List.map_append, List.map_map]
  rfl

theorem nodup_slot_made (s : Settings) : (s.made.map Made.slot).Nodup := by
  obtain ⟨javaHome, classPath, skip, profile⟩ := s
  cases javaHome <;> cases classPath <;> cases skip <;>
    simp [made, Made.slot]

theorem settings_foldl_put_made (s : Settings) :
    (s.made.foldl Made.put {}).settings = s := by
  obtain ⟨javaHome, classPath, skip, profile⟩ := s
  cases javaHome <;> cases classPath <;> cases skip <;> rfl

/-! ## One member -/

theorem readText_quote (expected : String) (t rest : Text) :
    readText expected (quote t ++ rest) = .ok (t, rest) := by
  rw [quote_append, readText]
  exact Json.readString_flatMap_escapeChar t rest

theorem readOptionalText_quote (expected : String) (t rest : Text) :
    readOptionalText expected (quote t ++ rest) = .ok (some t, rest) := by
  have htext := readText_quote expected t rest
  rw [quote_append] at htext ⊢
  rw [readOptionalText, htext]
  · rfl
  · intro _ hnull
    cases hnull

theorem readProfile_quote (p : Python.Profile) (rest : Text) :
    readProfile (quote p.name ++ rest) = .ok (p, rest) := by
  rw [quote_append, readProfile, Json.readString_flatMap_escapeChar]
  cases p <;> rfl

/-- What is written for a setting is read into its place. -/
theorem Made.read_put (x : Made) (d : Draft) (rest : Text) :
    x.slot.read d (quote x.value ++ rest) = .ok (x.put d, rest) := by
  cases x with
  | javaHome path =>
      exact congrArg (Except.map _) (readOptionalText_quote _ path rest)
  | classPath path =>
      exact congrArg (Except.map _) (readOptionalText_quote _ path rest)
  | skip pattern =>
      exact congrArg (Except.map _) (readOptionalText_quote _ pattern rest)
  | profile p => exact congrArg (Except.map _) (readProfile_quote p rest)

theorem readMember_put {x : Made} {d : Draft} (hd : x.slot.isSet d = false)
    (rest : Text) :
    readMember d x.slot.name (": ".toList ++ (quote x.value ++ rest)) =
      .ok (x.put d, rest) := by
  have hname : Slot.ofName? x.slot.name = some x.slot := by
    cases x <;> rfl
  have hcolon : readColon (": ".toList ++ (quote x.value ++ rest)) =
      .ok ((), quote x.value ++ rest) :=
    congrArg (fun t => Except.ok ((), t)) (skipBlanks_quote_append x.value rest)
  rw [readMember, hname]
  simp only
  rw [hd, if_neg Bool.false_ne_true, hcolon]
  exact x.read_put d rest

/-! ## All members -/

/-- What is written for a member, with a text behind it. -/
def memberText (x : Made) (after : Text) : Text :=
  quote x.slot.name ++ (": ".toList ++ (quote x.value ++ after))

theorem prettyMembers_singleton (x : Made) (after : Text) :
    prettyMembers 1 [x.member] ++ after = newline 1 ++ memberText x after := by
  rw [Made.member, prettyMembers, Json.prettyAt, memberText, List.append_assoc,
    List.append_assoc, List.append_assoc]

theorem prettyMembers_cons (x y : Made) (rest : List Made) (after : Text) :
    prettyMembers 1 (x.member :: y.member :: rest.map Made.member) ++ after =
      newline 1 ++ memberText x
        (',' :: (prettyMembers 1 (y.member :: rest.map Made.member) ++ after)) := by
  rw [Made.member, prettyMembers, Json.prettyAt, memberText, List.append_assoc,
    List.append_assoc, List.append_assoc, List.append_assoc]
  · rfl
  · exact List.cons_ne_nil _ _

theorem skipBlanks_memberText (x : Made) (after : Text) :
    skipBlanks (newline 1 ++ memberText x after) = memberText x after := by
  rw [skipBlanks_newline_append]
  exact skipBlanks_quote_append _ _

theorem readMembers_last {x : Made} {d : Draft} (hd : x.slot.isSet d = false)
    (fuel : ℕ) {after rest : Text} (hafter : skipBlanks after = '\x7d' :: rest) :
    readMembers (fuel + 1) d (memberText x after) = .ok (x.put d, rest) := by
  have hmember := readMember_put hd after
  rw [memberText, quote_append]
  unfold readMembers
  simp only [Json.readString_flatMap_escapeChar, hmember, hafter, bind, Except.bind]
  rfl

theorem readMembers_next {x : Made} {d : Draft} (hd : x.slot.isSet d = false)
    (fuel : ℕ) {tail next : Text} (htail : skipBlanks tail = '"' :: next) :
    readMembers (fuel + 1) d (memberText x (',' :: tail)) =
      readMembers fuel (x.put d) ('"' :: next) := by
  have hmember := readMember_put hd (',' :: tail)
  have hcomma : skipBlanks (',' :: tail) = ',' :: tail := rfl
  rw [memberText, quote_append]
  conv_lhs => unfold readMembers
  simp only [Json.readString_flatMap_escapeChar, hmember, hcomma, htail, bind,
    Except.bind]
  rfl

/-- Members start with a quote. -/
theorem exists_skipBlanks_prettyMembers (x : Made) (xs : List Made)
    (after : Text) :
    ∃ next, skipBlanks (prettyMembers 1 ((x :: xs).map Made.member) ++ after) =
      '"' :: next := by
  cases xs with
  | nil =>
      rw [List.map_cons, List.map_nil, prettyMembers_singleton,
        skipBlanks_memberText, memberText, quote_append]
      exact ⟨_, rfl⟩
  | cons y others =>
      rw [List.map_cons, List.map_cons, prettyMembers_cons,
        skipBlanks_memberText, memberText, quote_append]
      exact ⟨_, rfl⟩

/-- Members of places that are not set yet are read into them. -/
theorem readMembers_put {xs : List Made} (hne : xs ≠ [])
    (hslots : (xs.map Made.slot).Nodup) {d : Draft}
    (hd : ∀ x ∈ xs, x.slot.isSet d = false) {fuel : ℕ} (hfuel : xs.length ≤ fuel)
    (rest : Text) :
    readMembers fuel d (skipBlanks (prettyMembers 1 (xs.map Made.member) ++
        (newline 0 ++ '\x7d' :: rest))) =
      .ok (xs.foldl Made.put d, rest) := by
  induction xs generalizing d fuel with
  | nil => exact absurd rfl hne
  | cons x xs ih =>
      -- The place of the first member is taken from here on, and only that one.
      obtain ⟨fuel, rfl⟩ : ∃ n, fuel = n + 1 :=
        Nat.exists_eq_succ_of_ne_zero (by simp at hfuel; omega)
      have hx := hd x (by simp)
      cases xs with
      | nil =>
          rw [List.map_cons, List.map_nil, prettyMembers_singleton,
            skipBlanks_memberText]
          exact readMembers_last hx fuel rfl
      | cons y others =>
          rw [List.map_cons, List.nodup_cons] at hslots
          have hothers : ∀ z ∈ y :: others, z.slot.isSet (x.put d) = false := by
            intro z hz
            have hapart : z.slot ≠ x.slot := fun heq =>
              hslots.1 (heq ▸ List.mem_map_of_mem hz)
            rw [Made.isSet_put, decide_eq_false hapart,
              hd z (List.mem_cons_of_mem x hz)]
            rfl
          have hrest := ih (List.cons_ne_nil y others) hslots.2 hothers
            (Nat.le_of_succ_le_succ hfuel)
          obtain ⟨next, hnext⟩ := exists_skipBlanks_prettyMembers y others
            (newline 0 ++ '\x7d' :: rest)
          rw [hnext] at hrest
          rw [List.map_cons] at hnext
          rw [List.map_cons, List.map_cons, prettyMembers_cons,
            skipBlanks_memberText, readMembers_next hx fuel hnext,
            List.foldl_cons, hrest]

/-! ## The text of settings -/

theorem text_eq (s : Settings) :
    s.text = '\x7b' :: (prettyMembers 1 (s.made.map Made.member) ++
      (newline 0 ++ ['\x7d'])) := by
  have hne : s.made.map Made.member ≠ [] := by
    simp [made]
  obtain ⟨m, ms, hms⟩ := List.exists_cons_of_ne_nil hne
  rw [text, toJson_eq, hms, Json.pretty, Json.prettyAt, List.append_assoc]
  rfl

theorem length_lt_memberText (x : Made) (after : Text) :
    after.length < (memberText x after).length := by
  simp only [memberText, quote, List.length_append, List.length_cons]
  omega

/-- There is a character for each member, so the fuel of the reader suffices. -/
theorem length_le_skipBlanks_prettyMembers (xs : List Made) (after : Text) :
    xs.length ≤
      (skipBlanks (prettyMembers 1 (xs.map Made.member) ++ after)).length := by
  induction xs with
  | nil => exact Nat.zero_le _
  | cons x xs ih =>
      cases xs with
      | nil =>
          rw [List.map_cons, List.map_nil, prettyMembers_singleton,
            skipBlanks_memberText]
          exact Nat.lt_of_le_of_lt (Nat.zero_le _) (length_lt_memberText x after)
      | cons y others =>
          have hrest : (skipBlanks (prettyMembers 1
              ((y :: others).map Made.member) ++ after)).length ≤
                (prettyMembers 1 ((y :: others).map Made.member) ++ after).length :=
            (List.dropWhile_suffix _).length_le
          have hmember := length_lt_memberText x
            (',' :: (prettyMembers 1 ((y :: others).map Made.member) ++ after))
          rw [List.map_cons, List.map_cons, prettyMembers_cons,
            skipBlanks_memberText]
          rw [List.length_cons] at hmember ⊢
          exact (Nat.succ_le_succ (ih.trans hrest)).trans hmember.le

/-- What is written for some settings is read back, with blanks behind it or
without. -/
theorem ofText_text_append (s : Settings) {blanks : Text}
    (hblanks : skipBlanks blanks = []) : ofText (s.text ++ blanks) = .ok s := by
  obtain ⟨x, xs, hmade⟩ := List.exists_cons_of_ne_nil
    (show s.made ≠ [] by simp [made])
  obtain ⟨next, hnext⟩ := exists_skipBlanks_prettyMembers x xs
    (newline 0 ++ '\x7d' :: blanks)
  have hlength := length_le_skipBlanks_prettyMembers (x :: xs)
    (newline 0 ++ '\x7d' :: blanks)
  have hfuel : (x :: xs).length ≤ next.length + 2 := by
    rw [hnext] at hlength
    exact hlength.trans (Nat.le_succ _)
  have hunset : ∀ y ∈ x :: xs, y.slot.isSet {} = false := by
    intro y _
    cases y <;> rfl
  have hmembers := readMembers_put (List.cons_ne_nil x xs)
    (hmade ▸ s.nodup_slot_made) hunset hfuel blanks
  have hbrace : s.text ++ blanks = '\x7b' ::
      (prettyMembers 1 ((x :: xs).map Made.member) ++
        (newline 0 ++ '\x7d' :: blanks)) := by
    rw [text_eq, hmade, List.cons_append, List.append_assoc, List.append_assoc]
    rfl
  have hsettings : readSettings (skipBlanks (s.text ++ blanks)) =
      .ok (s.made.foldl Made.put {}, blanks) := by
    rw [hnext] at hmembers
    rw [hbrace, skipBlanks_of_stops (by rintro c ⟨⟩; rfl), readSettings, hnext,
      hmade]
    exact hmembers
  have hend : readEnd blanks = .ok ((), []) := by
    rw [readEnd, hblanks]
  rw [ofText, hsettings]
  change Except.bind (readEnd blanks) _ = _
  rw [hend]
  exact congrArg Except.ok s.settings_foldl_put_made

/-! ## The settings file -/

/-- Bytes that hold the text of some settings, with a line end behind it or
without. -/
def IsTextOf (bytes : Bytes) (s : Settings) : Prop :=
  bytes = Text.encode s.text ∨ bytes = Text.encode (s.text ++ ['\n'])

theorem IsTextOf.ofFile {bytes : Bytes} {s : Settings} (hbytes : IsTextOf bytes s)
    (path : Text) : Settings.ofFile path (readable (.ok bytes)) = .ok s := by
  obtain ⟨blanks, hblanks, rfl⟩ : ∃ blanks, skipBlanks blanks = [] ∧
      bytes = Text.encode (s.text ++ blanks) := by
    rcases hbytes with rfl | rfl
    · exact ⟨[], rfl, by rw [List.append_nil]⟩
    · exact ⟨['\n'], rfl, rfl⟩
  rw [readable, Text.decode?_encode, Settings.ofFile, ofText_text_append s hblanks]

end Stubgen.Settings

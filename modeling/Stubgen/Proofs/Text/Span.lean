import Stubgen.Text.Basic
import Mathlib.Data.List.TakeWhile
import Mathlib.Tactic

/-!
# Spans

Every reader of this library cuts a text where a class of characters ends.  A
span is a run of characters of one class in front of a text that does not go
on with that class; cutting such a text gives back the two parts.
-/

namespace Stubgen
namespace Text

/-- The text does not start with a character of the class. -/
def Stops (p : Char → Bool) (t : Text) : Prop :=
  ∀ c ∈ t.head?, p c = false

@[simp] theorem stops_nil (p : Char → Bool) : Stops p [] := by
  simp [Stops]

@[simp] theorem stops_cons {p : Char → Bool} {c : Char} {t : Text} :
    Stops p (c :: t) ↔ p c = false := by
  simp [Stops]

instance (p : Char → Bool) (t : Text) : Decidable (Stops p t) :=
  match t with
  | [] => isTrue (stops_nil p)
  | c :: _ => decidable_of_iff (p c = false) stops_cons.symm

theorem stops_dropWhile (p : Char → Bool) (t : Text) :
    Stops p (t.dropWhile p) := by
  intro c hc
  have hhead := List.head?_dropWhile_not p t
  rw [hc] at hhead
  simpa using hhead

theorem Stops.append {p : Char → Bool} {s t : Text}
    (hs : Stops p s) (ht : Stops p t) : Stops p (s ++ t) := by
  cases s with
  | nil => exact ht
  | cons c s => simpa using hs

theorem stops_reverse_append {p : Char → Bool} {s t : Text}
    (hs : Stops p s.reverse) (ht : Stops p t.reverse) :
    Stops p (s ++ t).reverse := by
  rw [List.reverse_append]
  exact ht.append hs

theorem stops_reverse_of_cons {p : Char → Bool} {c : Char} {t : Text}
    (h : Stops p (c :: t).reverse) : Stops p t.reverse := by
  intro d hd
  apply h d
  rw [List.reverse_cons, List.head?_append, hd]
  rfl

theorem takeWhile_of_stops {p : Char → Bool} {t : Text} (ht : Stops p t) :
    t.takeWhile p = [] := by
  cases t with
  | nil => rfl
  | cons c t => simp [stops_cons.mp ht]

theorem dropWhile_of_stops {p : Char → Bool} {t : Text} (ht : Stops p t) :
    t.dropWhile p = t := by
  cases t with
  | nil => rfl
  | cons c t => simp [stops_cons.mp ht]

theorem takeWhile_span {p : Char → Bool} {span rest : Text}
    (hspan : ∀ c ∈ span, p c = true) (hrest : Stops p rest) :
    (span ++ rest).takeWhile p = span := by
  rw [List.takeWhile_append_of_pos hspan, takeWhile_of_stops hrest,
    List.append_nil]

theorem dropWhile_span {p : Char → Bool} {span rest : Text}
    (hspan : ∀ c ∈ span, p c = true) (hrest : Stops p rest) :
    (span ++ rest).dropWhile p = rest := by
  rw [List.dropWhile_append_of_pos hspan, dropWhile_of_stops hrest]

theorem decide_ne_of_notMem {t : Text} {x : Char} (hx : x ∉ t) :
    ∀ c ∈ t, decide (c ≠ x) = true := by
  intro c hc
  rw [decide_eq_true_iff]
  rintro rfl
  exact hx hc

theorem decide_eq_of_notMem {t : Text} {x : Char} (hx : x ∉ t) :
    ∀ c ∈ t, decide (c = x) = false := by
  intro c hc
  rw [decide_eq_false_iff_not]
  rintro rfl
  exact hx hc

/-- What follows a span does not reach into it. -/
theorem takeWhile_append_of_stops {p : Char → Bool} {s rest : Text}
    (hrest : Stops p rest) :
    (s ++ rest).takeWhile p = s.takeWhile p := by
  rw [List.takeWhile_append]
  split
  next hlength =>
    have hall : s.takeWhile p = s :=
      (List.takeWhile_prefix p).eq_of_length hlength
    rw [takeWhile_of_stops hrest, List.append_nil, hall]
  next => rfl

/-- Taking a label off succeeds exactly on the texts that start with it. -/
theorem afterLabel?_eq_some_iff {label t rest : Text} :
    afterLabel? label t = some rest ↔ t = label ++ rest := by
  induction label generalizing t with
  | nil => simp [afterLabel?]
  | cons l label ih =>
      cases t with
      | nil => simp [afterLabel?]
      | cons c t =>
          by_cases heq : l = c
          · simp [afterLabel?, heq, ih]
          · simp [afterLabel?, heq, Ne.symm heq]

end Text
end Stubgen

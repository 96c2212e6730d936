import Stubgen.Snippet
import Stubgen.Proofs.Text.Digits
import Stubgen.Proofs.Text.Layout

/-!
# What a snippet says

The second row of a snippet cites a place behind a corner, and the last row but
one gives the message.  Both can be read off the drawn text.  The place is that
of the character with the given number, and the message is there exactly if the
text has such a character.
-/

namespace Stubgen.Snippet

open Text

/-! ## The place -/

/-- What stands in front of the place in its row. -/
def corner : Text :=
  paint .frame ['╭'] ++ paint .frame ['─'] ++ paint .frame ['[']

/-- The place that a snippet cites, up to the colour command behind it. -/
def citedPlace? (snippet : Text) : Option Text :=
  let row := ((snippet.dropWhile (· ≠ '\n')).drop 1).dropWhile (· = ' ')
  (afterLabel? corner row).map (·.takeWhile (· ≠ '\x1b'))

/-- A place of a text that goes by a name, counted from one. -/
def Place.text (name : Text) (place : Place) : Text :=
  name ++ ':' :: ofNat (place.row + 1) ++ ':' :: ofNat (place.column + 1)

/-- The row ahead of the place. -/
def header (title : Text) : Text :=
  paint .red "Error:".toList ++ ' ' :: title

section Render

variable {title name message source : Text} {at_ : ℕ}

theorem render_of_lt (hat : source.length < at_) :
    render title name message source at_ = header title ++ ['\n'] := by
  rw [render, if_pos hat, header]
  simp

theorem render_of_le (title name message : Text) (hat : at_ ≤ source.length) :
    ∃ (width : ℕ) (rest : Text), render title name message source at_ =
      header title ++ '\n' :: (times width ' ' ++ (corner ++
        (Place.text name (locate 0 at_ (splitLines source)) ++
          '\x1b' :: rest))) := by
  let number := ofNat ((locate 0 at_ (splitLines source)).row + 1)
  rw [render, if_neg (Nat.not_lt.mpr hat)]
  simp only [header, corner, Place.text, List.append_assoc, List.cons_append,
    List.nil_append]
  exact ⟨number.length + 2, _, rfl⟩

theorem citedPlace?_render (htitle : '\n' ∉ title) (hname : '\x1b' ∉ name) :
    citedPlace? (render title name message source at_) =
      if source.length < at_ then none
      else some (Place.text name (locate 0 at_ (splitLines source))) := by
  have hheader : '\n' ∉ header title := by
    intro hmem
    rcases List.mem_append.mp hmem with hlabel | hmem
    · exact absurd hlabel (by decide)
    · exact htitle (by simpa using hmem)
  have hspan := decide_ne_of_notMem hheader
  split
  next hat =>
    rw [render_of_lt hat, citedPlace?, dropWhile_span hspan (by simp)]
    rfl
  next hat =>
    obtain ⟨width, rest, hrender⟩ :=
      render_of_le title name message (Nat.le_of_not_lt hat)
    have hplace :
        '\x1b' ∉ Place.text name (locate 0 at_ (splitLines source)) := by
      simp [Place.text, hname, notMem_ofNat]
    have hmargin : ∀ c ∈ times width ' ', decide (c = ' ') = true := by
      intro c hc
      simpa using List.eq_of_mem_replicate hc
    have hcorner : ∀ u, Stops (· = ' ') (corner ++ u) :=
      fun _ => stops_cons.mpr rfl
    rw [hrender, citedPlace?, dropWhile_span hspan (by simp), List.drop_one,
      List.tail_cons, dropWhile_span hmargin (hcorner _),
      afterLabel?_eq_some_iff.mpr rfl, Option.map_some,
      takeWhile_span (decide_ne_of_notMem hplace) (by simp)]

/-! ## The message -/

/-- A character with a number has a line, with the message under it. -/
theorem message_infix_render (hat : at_ < source.length) :
    message <:+: render title name message source at_ := by
  rw [render, if_neg (Nat.not_lt.mpr hat.le)]
  dsimp only
  rw [if_neg hat.ne]
  -- From the outside in: the lower edge, the header, the rows above, the arrow.
  refine .trans ?_ (List.prefix_append _ ['\n']).isInfix
  refine .trans ?_ (List.prefix_append _ _).isInfix
  refine .trans ?_ (List.suffix_append _ _).isInfix
  refine .trans ?_ (List.suffix_append _ _).isInfix
  refine .trans ?_ (List.prefix_append _ ['\n']).isInfix
  refine .trans ?_ (List.suffix_append _ _).isInfix
  exact ((List.suffix_append _ message).trans (List.suffix_cons ' ' _)).isInfix

/-- The characters that every snippet is drawn with. -/
def isFurniture (c : Char) : Bool :=
  c.isDigit || "\x1b[m; \nEro:╭─]│╯".toList.contains c

/-- What is said in a text that is drawn with them. -/
def wording (t : Text) : Text := t.filter fun c => !isFurniture c

@[simp] theorem wording_append (t u : Text) :
    wording (t ++ u) = wording t ++ wording u :=
  List.filter_append t u

@[simp] theorem wording_cons_of_isFurniture {c : Char}
    (hc : isFurniture c = true) (t : Text) : wording (c :: t) = wording t :=
  List.filter_cons_of_neg (by simp [hc])

@[simp] theorem wording_nil : wording [] = [] := rfl

theorem wording_eq_nil {t : Text} (ht : ∀ c ∈ t, isFurniture c = true) :
    wording t = [] :=
  List.filter_eq_nil_iff.mpr fun c hc => by simp [ht c hc]

@[simp] theorem wording_paint (colour : Colour) (t : Text) :
    wording (paint colour t) = wording t := by
  have hcode : wording colour.code = [] := by
    cases colour <;> rfl
  simp (disch := decide) [paint, hcode]

@[simp] theorem wording_times {c : Char} (hc : isFurniture c = true) (n : ℕ) :
    wording (times n c) = [] := by
  refine wording_eq_nil fun d hd => ?_
  rw [List.eq_of_mem_replicate hd]
  exact hc

@[simp] theorem wording_ofNat (n : ℕ) : wording (ofNat n) = [] := by
  refine wording_eq_nil fun c hc => ?_
  rw [isFurniture, isDigit_of_mem_ofNat hc, Bool.true_or]

/-- Behind the end of the text there is nothing to put a message under. -/
theorem wording_render (hat : source.length ≤ at_) :
    wording (render title name message source at_) =
      wording title ++ if source.length < at_ then [] else wording name := by
  split
  next hlt =>
    rw [render_of_lt hlt, header]
    simp (disch := decide)
  next hle =>
    have heq : at_ = source.length := Nat.le_antisymm (Nat.not_lt.mp hle) hat
    rw [render, if_neg hle]
    dsimp only
    rw [if_pos heq]
    simp (disch := decide)

end Render

/-! ## Single lines -/

/-- No character ends a line. -/
def IsOneLine (t : Text) : Prop := ∀ c ∈ t, endsLine c = false

-- The search for an instance would decide "for all characters" over the whole
-- type, so the one for lists is named.
instance : DecidablePred IsOneLine := fun t =>
  List.decidableBAll (fun c : Char => endsLine c = false) t

theorem splitLines_of_isOneLine {t : Text} (hne : t ≠ [])
    (hline : IsOneLine t) : splitLines t = [t] := by
  induction t with
  | nil => exact absurd rfl hne
  | cons c t ih =>
      have hc : endsLine c = false := hline c (by simp)
      have hreturn : c ≠ '\r' := by
        rintro rfl
        cases hc
      rw [splitLines.eq_3 _ _ fun _ h => absurd h hreturn, if_neg (by simp [hc])]
      cases t with
      | nil => rfl
      | cons d t =>
          rw [ih (by simp) fun x hx => hline x (List.mem_cons_of_mem c hx)]

end Stubgen.Snippet

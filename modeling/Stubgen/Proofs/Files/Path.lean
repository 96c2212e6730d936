import Stubgen.Files.Tree
import Stubgen.Proofs.Outcome
import Stubgen.Proofs.Text.Layout

/-!
# Names in directories

Joining a path with a plain name adds one component.  In a tree whose root goes
by an absolute name, the joined path leads to that name in the directory that
the path leads to, however the directory is spelled.
-/

namespace Stubgen
namespace Path

/-! ## Components -/

/-- The system takes the text for a path or an argument: it has no NUL. -/
def IsNulFree (t : Text) : Prop := ∀ c ∈ t, c.toNat ≠ 0

/-- A name can stand in a directory: it has no slash and no NUL. -/
def IsFileName (name : Text) : Prop := ∀ c ∈ name, c ≠ '/' ∧ c.toNat ≠ 0

-- The search for an instance would decide "for all characters" over the whole
-- type, so the one for lists is named.
instance : DecidablePred IsNulFree := fun t =>
  List.decidableBAll (fun c : Char => c.toNat ≠ 0) t

instance : DecidablePred IsFileName := fun name =>
  List.decidableBAll (fun c : Char => c ≠ '/' ∧ c.toNat ≠ 0) name

theorem IsFileName.isNulFree {name : Text} (h : IsFileName name) :
    IsNulFree name :=
  fun c hc => (h c hc).2

theorem IsFileName.slash_notMem {name : Text} (h : IsFileName name) :
    '/' ∉ name :=
  fun hmem => (h '/' hmem).1 rfl

theorem IsFileName.append {s t : Text} (hs : IsFileName s) (ht : IsFileName t) :
    IsFileName (s ++ t) := by
  intro c hc
  exact (List.mem_append.mp hc).elim (hs c) (ht c)

theorem pieces_ne_nil (t : Text) : pieces t ≠ [] := by
  fun_cases pieces t <;> simp

theorem pieces_append_slash (s t : Text) :
    pieces (s ++ '/' :: t) = pieces s ++ pieces t := by
  induction s with
  | nil => rfl
  | cons c s ih =>
      by_cases hc : c = '/'
      · subst hc
        rw [List.cons_append, pieces, pieces, ih, List.cons_append]
      · obtain ⟨piece, others, hs⟩ := List.exists_cons_of_ne_nil (pieces_ne_nil s)
        rw [List.cons_append, pieces.eq_3 _ _ hc, pieces.eq_3 _ _ hc, ih, hs]
        rfl

theorem pieces_of_notMem {t : Text} (ht : '/' ∉ t) : pieces t = [t] := by
  induction t with
  | nil => rfl
  | cons c t ih =>
      obtain ⟨hc, ht⟩ : '/' ≠ c ∧ '/' ∉ t := by simpa using ht
      rw [pieces.eq_3 _ _ hc.symm, ih ht]

theorem components_append_slash (s t : Text) :
    components (s ++ '/' :: t) = components s ++ components t := by
  rw [components, pieces_append_slash, List.filter_append, components,
    components]

theorem components_of_notMem {t : Text} (hne : t ≠ []) (ht : '/' ∉ t) :
    components t = [t] := by
  rw [components, pieces_of_notMem ht]
  simp [hne]

/-- What stands behind the last slash of a path is its last component, unless
nothing stands there. -/
theorem exists_lastComponent {path : Text} {c : Char}
    (hlast : path.getLast? = some c) (hc : c ≠ '/') :
    ∃ front name, components path = front ++ [name] ∧ name.getLast? = some c := by
  by_cases hslash : '/' ∈ path
  · obtain ⟨behind, ahead, hpath, hbehind⟩ :=
      List.eq_append_cons_of_mem (List.mem_reverse.mpr hslash)
    obtain rfl : path = ahead.reverse ++ '/' :: behind.reverse := by
      rw [← List.reverse_reverse path, hpath]
      simp
    have hname : behind.reverse ≠ [] := by
      intro hnil
      rw [hnil, List.getLast?_concat] at hlast
      exact hc (Option.some.inj hlast).symm
    refine ⟨components ahead.reverse, behind.reverse, ?_, ?_⟩
    · rw [components_append_slash,
        components_of_notMem hname (by simpa using hbehind)]
    · rw [← hlast, ← List.singleton_append (l := behind.reverse), ← List.append_assoc,
        List.getLast?_append_of_ne_nil _ hname]
  · have hne : path ≠ [] := by
      rintro rfl
      cases hlast
    exact ⟨[], path, components_of_notMem hne hslash, hlast⟩

theorem endsInSlash_dropEndWhile (path : Text) :
    endsInSlash (Text.dropEndWhile (· = '/') path) = false := by
  rw [endsInSlash, decide_eq_false_iff_not, Text.dropEndWhile,
    List.getLast?_reverse]
  intro hlast
  have hnot := List.head?_dropWhile_not (fun c => decide (c = '/')) path.reverse
  rw [hlast] at hnot
  simp at hnot

theorem dropEndWhile_of_endsInSlash {path : Text} (h : endsInSlash path = false) :
    Text.dropEndWhile (· = '/') path = path := by
  apply Text.dropEndWhile_of_stops
  rw [endsInSlash, decide_eq_false_iff_not] at h
  intro c hc
  rw [List.head?_reverse] at hc
  simp
  rintro rfl
  exact h hc

/-! ## Joining -/

section Join

variable {base child : Text}

theorem join_of_name (hbase : base ≠ []) (hchild : '/' ∉ child) :
    join base child = if base.getLast? = some '/' then base ++ child
      else base ++ '/' :: child := by
  have hhead : child.head? ≠ some '/' :=
    fun hhead => hchild (List.mem_of_head? hhead)
  rw [join, if_neg hhead, if_neg (by simpa using hbase)]

theorem join_append (x : Text) (hbase : base ≠ []) (hchild : '/' ∉ child) :
    join (x ++ base) child = x ++ join base child := by
  rw [join_of_name (by simp [hbase]) hchild, join_of_name hbase hchild,
    List.getLast?_append_of_ne_nil x hbase]
  split <;> simp

theorem exists_join_cons (c : Char) (rest : Text) (hchild : '/' ∉ child) :
    ∃ behind, join (c :: rest) child = c :: behind := by
  rw [join_of_name (List.cons_ne_nil c rest) hchild]
  split
  next => exact ⟨_, List.cons_append⟩
  next => exact ⟨_, List.cons_append⟩

theorem suffix_join (base child : Text) : child <:+ join base child := by
  unfold join
  split
  next => exact List.suffix_rfl
  split
  next => exact List.suffix_rfl
  split
  next => exact List.suffix_append base child
  next => exact (List.suffix_cons '/' child).trans (List.suffix_append base _)

theorem mem_join {c : Char} (hc : c ∈ join base child) :
    c ∈ base ∨ c = '/' ∨ c ∈ child := by
  unfold join at hc
  split_ifs at hc
  · exact .inr (.inr hc)
  · exact .inr (.inr hc)
  · exact (List.mem_append.mp hc).imp_right .inr
  · simpa using hc

theorem getLast?_join (hne : child ≠ []) :
    (join base child).getLast? = child.getLast? := by
  obtain ⟨front, hfront⟩ := suffix_join base child
  rw [← hfront, List.getLast?_append_of_ne_nil front hne]

theorem endsInSlash_join (hne : child ≠ []) (hchild : '/' ∉ child) :
    endsInSlash (join base child) = false := by
  rw [endsInSlash, getLast?_join hne, decide_eq_false_iff_not]
  exact fun hlast => hchild (List.mem_of_getLast? hlast)

/-- The component that is added is the name, whether a slash has to be added
or not. -/
theorem components_join (hbase : base ≠ []) (hne : child ≠ [])
    (hchild : '/' ∉ child) :
    components (join base child) = components base ++ [child] := by
  rw [join_of_name hbase hchild]
  split
  next hlast =>
    obtain ⟨front, rfl⟩ := List.getLast?_eq_some_iff.mp hlast
    rw [List.append_assoc, List.singleton_append, components_append_slash,
      components_append_slash, components_of_notMem hne hchild,
      show components [] = [] from rfl, List.append_nil]
  next =>
    rw [components_append_slash, components_of_notMem hne hchild]

end Join

end Path

namespace FileTree

open Stubgen.Path

/-! ## Paths below the root -/

/-- The root goes by an absolute name, which is not that of the whole system. -/
structure HasAbsoluteRoot (tree : FileTree) : Prop where
  absolute : tree.root.head? = some '/'
  open_ : endsInSlash tree.root = false

variable {tree : FileTree} {directory child : Text}

theorem HasAbsoluteRoot.below?_relative (h : tree.HasAbsoluteRoot) {path : Text}
    (hpath : path.head? ≠ some '/') : tree.below? path = some path := by
  have hroot : path ≠ tree.root := by
    rintro rfl
    exact hpath h.absolute
  have hinside : Text.afterLabel? (tree.root ++ ['/']) path = none := by
    rw [Option.eq_none_iff_forall_ne_some]
    intro rest hrest
    rw [Text.afterLabel?_eq_some_iff] at hrest
    rw [hrest, List.head?_append, List.head?_append, h.absolute] at hpath
    exact hpath rfl
  rw [below?, if_neg hroot, hinside]
  exact if_neg hpath

theorem below?_inside (tree : FileTree) (rest : Text) :
    tree.below? (tree.root ++ '/' :: rest) = some (here ++ '/' :: rest) := by
  have hroot : tree.root ++ '/' :: rest ≠ tree.root := by simp
  have hinside : Text.afterLabel? (tree.root ++ ['/'])
      (tree.root ++ '/' :: rest) = some rest :=
    Text.afterLabel?_eq_some_iff.mpr (by simp)
  rw [below?, if_neg hroot, hinside]

theorem ne_nil_of_below? {path p : Text} (hne : path ≠ [])
    (h : tree.below? path = some p) : p ≠ [] := by
  unfold below? at h
  split at h
  next => cases h; simp [here]
  next =>
    split at h
    next => cases h; simp [here]
    next =>
      split at h
      next => cases h
      next => cases h; exact hne

theorem getLast?_of_below? {path p : Text} (h : tree.below? path = some p) :
    p = here ∨ p.getLast? = path.getLast? := by
  unfold below? at h
  split at h
  next => exact .inl (Option.some.inj h).symm
  next =>
    split at h
    next rest hinside =>
      cases h
      rw [Text.afterLabel?_eq_some_iff, List.append_assoc,
        List.singleton_append] at hinside
      right
      rw [hinside, List.getLast?_append_of_ne_nil _ (List.cons_ne_nil _ _),
        List.getLast?_append_of_ne_nil _ (List.cons_ne_nil _ _)]
    next =>
      split at h
      next => cases h
      next => cases h; exact .inr rfl

theorem endsInSlash_of_below? {path p : Text} (hpath : endsInSlash path = false)
    (h : tree.below? path = some p) : endsInSlash p = false := by
  rcases getLast?_of_below? h with rfl | hlast
  · decide
  · rw [endsInSlash, hlast]
    exact hpath

/-- What is below the root stays so under a name in it. -/
theorem HasAbsoluteRoot.below?_join (h : tree.HasAbsoluteRoot) {p : Text}
    (hchild : '/' ∉ child) (hne : directory ≠ [])
    (hbelow : tree.below? directory = some p) :
    tree.below? (join directory child) = some (join p child) := by
  unfold below? at hbelow
  split at hbelow
  next hroot =>
    cases hbelow
    subst hroot
    rw [join_of_name hne hchild, if_neg (of_decide_eq_false h.open_),
      below?_inside]
    rw [join_of_name (by decide) hchild]
    rfl
  next =>
    split at hbelow
    next rest hinside =>
      cases hbelow
      rw [Text.afterLabel?_eq_some_iff, List.append_assoc,
        List.singleton_append] at hinside
      obtain ⟨behind, hbehind⟩ := exists_join_cons '/' rest hchild
      rw [hinside, join_append _ (List.cons_ne_nil _ _) hchild,
        join_append _ (List.cons_ne_nil _ _) hchild, hbehind, below?_inside]
    next =>
      split at hbelow
      next => cases hbelow
      next hrelative =>
        cases hbelow
        obtain ⟨c, rest, rfl⟩ := List.exists_cons_of_ne_nil hne
        obtain ⟨behind, hbehind⟩ := exists_join_cons c rest hchild
        rw [hbehind]
        exact h.below?_relative hrelative

/-! ## Walks -/

theorem walk_append (tree : FileTree) (start : Location) (first second : List Text) :
    tree.walk start (first ++ second) =
      tree.walk start first >>= fun at_ => tree.walk at_ second := by
  induction first generalizing start with
  | nil => rfl
  | cons c rest ih =>
      rw [List.cons_append, walk, walk]
      split
      next => rfl
      next =>
        split_ifs
        · exact ih _
        · rfl
        · exact ih _
        · exact ih _
      next => rfl

theorem eq_of_walk_here {start at_ : Location}
    (hwalk : tree.walk start [here] = .ok at_) : at_ = start := by
  rw [walk] at hwalk
  split at hwalk
  next => cases hwalk
  next =>
    rw [if_pos rfl] at hwalk
    cases hwalk
    rfl
  next => cases hwalk

theorem eq_of_walk_name {start at_ : Location} {name : Text}
    (hwalk : tree.walk start [name] = .ok at_) (hhere : name ≠ here)
    (hup : name ≠ up) : at_ = start ++ [name] := by
  rw [walk] at hwalk
  split at hwalk
  next => cases hwalk
  next =>
    rw [if_neg hhere, if_neg hup] at hwalk
    exact (Except.ok.inj hwalk).symm
  next => cases hwalk

theorem walk_name {at_ : Location} (hat : tree.entry? at_ = some .directory)
    (hhere : child ≠ here) (hup : child ≠ up) :
    tree.walk at_ [child] = .ok (at_ ++ [child]) := by
  rw [walk, hat]
  simp only
  rw [if_neg hhere, if_neg hup]
  rfl

/-- A path leads to the root or to a name that ends as the path does. -/
theorem lastLetter_of_locate {path : Text} {c : Char}
    (hlast : path.getLast? = some c) (hslash : c ≠ '/') (hdot : c ≠ '.')
    {at_ : Location} (hlocate : tree.locate path = .ok at_) :
    at_ = [] ∨ ∃ name ∈ at_.getLast?, name.getLast? = some c := by
  unfold locate at hlocate
  split_ifs at hlocate
  split at hlocate
  next => cases hlocate
  next p hbelow =>
    rcases getLast?_of_below? hbelow with rfl | hp
    · exact .inl (eq_of_walk_here hlocate)
    · rw [hlast] at hp
      obtain ⟨front, name, hcomponents, hname⟩ := exists_lastComponent hp hslash
      have hnot : ∀ u : Text, u.getLast? = some '.' → name ≠ u := by
        rintro u hu rfl
        exact hdot (Option.some.inj (hname.symm.trans hu))
      have hopen : endsInSlash p = false := by
        rw [endsInSlash, hp]
        simpa using hslash
      rw [hopen, if_neg Bool.false_ne_true, List.append_nil, hcomponents,
        walk_append, except_bind_eq_ok_iff] at hlocate
      obtain ⟨start, _, hwalk⟩ := hlocate
      obtain rfl := eq_of_walk_name hwalk (hnot _ rfl) (hnot _ rfl)
      exact .inr ⟨name, by simp, hname⟩

/-- A path that is joined with a name leads into the directory of the path. -/
theorem HasAbsoluteRoot.locate_join (h : tree.HasAbsoluteRoot) {at_ : Location}
    (hlocate : tree.locate directory = .ok at_)
    (hat : tree.entry? at_ = some .directory) (hname : IsFileName child)
    (hne : child ≠ []) (hhere : child ≠ here) (hup : child ≠ up) :
    tree.locate (join directory child) = .ok (at_ ++ [child]) := by
  have hslash := hname.slash_notMem
  unfold locate at hlocate
  split at hlocate
  next => cases hlocate
  next hdirectory =>
    split at hlocate
    next => cases hlocate
    next hnul =>
      split at hlocate
      next => cases hlocate
      next p hbelow =>
        have hdirectory : directory ≠ [] := by simpa using hdirectory
        have hp := ne_nil_of_below? hdirectory hbelow
        have hwalk : tree.walk [] (components p) = .ok at_ := by
          rw [walk_append, except_bind_eq_ok_iff] at hlocate
          obtain ⟨place, hplace, htail⟩ := hlocate
          split at htail
          next => rw [hplace, eq_of_walk_here htail]
          next =>
            cases htail
            exact hplace
        have hjoined : join directory child ≠ [] := by
          intro hnil
          exact hne (List.suffix_nil.mp (hnil ▸ suffix_join directory child))
        have hfree : ¬ (join directory child).any (·.toNat = 0) = true := by
          simp only [List.any_eq_true, decide_eq_true_eq, not_exists, not_and] at hnul ⊢
          intro c hc
          rcases mem_join hc with hc | rfl | hc
          · exact hnul c hc
          · decide
          · exact (hname c hc).2
        rw [locate, if_neg (by simpa using hjoined), if_neg hfree,
          h.below?_join hslash hdirectory hbelow]
        simp only
        rw [endsInSlash_join hne hslash, components_join hp hne hslash,
          if_neg Bool.false_ne_true, List.append_nil, walk_append, hwalk]
        exact walk_name hat hhere hup

theorem HasAbsoluteRoot.find_join (h : tree.HasAbsoluteRoot) {at_ : Location}
    (hlocate : tree.locate directory = .ok at_)
    (hat : tree.entry? at_ = some .directory) (hname : IsFileName child)
    (hne : child ≠ []) (hhere : child ≠ here) (hup : child ≠ up) :
    tree.find (join directory child) =
      match tree.entry? (at_ ++ [child]) with
      | some e => .ok e
      | none => .error .notFound := by
  rw [find, h.locate_join hlocate hat hname hne hhere hup]
  rfl

theorem isNulFree_of_find {path : Text} {e : Entry}
    (h : tree.find path = .ok e) : IsNulFree path := by
  obtain ⟨at_, hlocate, _⟩ := except_bind_eq_ok_iff.mp h
  unfold locate at hlocate
  split at hlocate
  next => cases hlocate
  next =>
    split at hlocate
    next => cases hlocate
    next hnul => simpa [IsNulFree] using hnul

end FileTree
end Stubgen

import Stubgen.Proofs.Descriptor.Decoding
import Stubgen.Proofs.Listing.Declaration
import Stubgen.Proofs.Listing.Parsed
import Mathlib.Tactic

/-!
# What the names and types of a class are made of

A method is read from two lines of the listing: its name stands in front of the
first bracket of the one, and its types are cut out of the descriptor in the
other.  Hence no name and no type holds a line end, and no name holds a bracket,
whatever the listing.  Putting a letter in lower case makes neither, so the same
holds of the properties.
-/

namespace Stubgen

/-! ## Names -/

theorem Text.dropEndWhile_subset (p : Char → Bool) (t : Text) :
    Text.dropEndWhile p t ⊆ t := by
  intro c hc
  rw [Text.dropEndWhile, List.mem_reverse] at hc
  exact List.mem_reverse.mp ((List.dropWhile_suffix _).subset hc)

theorem Text.trim_subset (t : Text) : Text.trim t ⊆ t :=
  List.Subset.trans (Text.dropEndWhile_subset _ _)
    (List.dropWhile_suffix _).subset

theorem Text.dropWords_suffix (n : ℕ) (t : Text) : Text.dropWords n t <:+ t := by
  induction n generalizing t with
  | zero => exact List.suffix_rfl
  | succ n ih =>
      have hword : t.dropWhile (fun c => !Text.isBlank c) <:+ t :=
        List.dropWhile_suffix _
      exact (ih _).trans ((List.dropWhile_suffix _).trans hword)

theorem Text.mem_of_mem_words {t w : Text} (hw : w ∈ Text.words t) {c : Char}
    (hc : c ∈ w) : c ∈ t := by
  induction t generalizing w with
  | nil => cases hw
  | cons x rest ih =>
      unfold Text.words at hw
      split at hw
      next => exact List.mem_cons_of_mem x (ih hw hc)
      next =>
        split at hw
        next word others _ hwords =>
          rcases List.mem_cons.mp hw with rfl | hothers
          · rcases List.mem_cons.mp hc with rfl | hmem
            · exact List.mem_cons_self
            · exact List.mem_cons_of_mem x (ih (by simp [hwords]) hmem)
          · exact List.mem_cons_of_mem x (ih (by simp [hwords, hothers]) hc)
        next others _ =>
          rcases List.mem_cons.mp hw with rfl | hothers
          · rw [List.mem_singleton.mp hc]
            exact List.mem_cons_self
          · exact List.mem_cons_of_mem x (ih hothers hc)

namespace Listing

theorem afterTypeParameters?_suffix {depth : ℕ} {t rest : Text}
    (hafter : afterTypeParameters? depth t = some rest) : rest <:+ t := by
  induction depth, t using afterTypeParameters?.induct with
  | case1 => cases hafter
  | case2 depth rest' ih =>
      rw [afterTypeParameters?] at hafter
      exact (ih hafter).trans (List.suffix_cons _ _)
  | case3 depth rest' hdepth =>
      rw [afterTypeParameters?, if_pos hdepth] at hafter
      cases hafter
      exact (List.dropWhile_suffix _).trans (List.suffix_cons _ _)
  | case4 depth rest' hdepth ih =>
      rw [afterTypeParameters?, if_neg hdepth] at hafter
      exact (ih hafter).trans (List.suffix_cons _ _)
  | case5 depth c rest' hopen hclose ih =>
      rw [afterTypeParameters?] at hafter
      · exact (ih hafter).trans (List.suffix_cons _ _)
      · exact hopen
      · exact hclose

theorem stripTypeParameters_suffix (t : Text) : stripTypeParameters t <:+ t := by
  unfold stripTypeParameters
  split
  next rest =>
    cases hafter : afterTypeParameters? 1 rest with
    | none => exact List.suffix_rfl
    | some inner =>
        exact (afterTypeParameters?_suffix hafter).trans (List.suffix_cons _ _)
  next => exact List.suffix_rfl

namespace Declaration

theorem mem_head_of_mem_name {line : Text} {d : Declaration}
    (hparse : parse? line = some d) {c : Char} (hc : c ∈ d.name) :
    c ∈ head line := by
  have hrest : ∀ n, ∀ x ∈ stripTypeParameters (Text.dropWords n (head line)),
      x ∈ head line := by
    intro n x hx
    exact (Text.dropWords_suffix n _).subset
      ((stripTypeParameters_suffix _).subset hx)
  unfold parse? at hparse
  dsimp only at hparse
  split at hparse
  next => cases hparse
  next =>
    split at hparse
    next =>
      cases hparse
      exact hrest _ c hc
    next =>
      obtain ⟨name, hname, rfl⟩ := Option.map_eq_some_iff.mp hparse
      exact hrest _ c (Text.mem_of_mem_words (List.mem_of_getLast? hname) hc)

theorem mem_line_of_mem_head {line : Text} {c : Char} (hc : c ∈ head line) :
    c ∈ line := by
  have hinner := Text.trim_subset _ hc
  split at hinner
  · exact (List.takeWhile_prefix _).subset hinner
  · exact Text.trim_subset _ (Text.dropEndWhile_subset _ _ hinner)

/-- The head of a line with brackets stands in front of them. -/
theorem bracket_notMem_name {line : Text} {d : Declaration}
    (hparse : parse? line = some d) (hmethod : d.isField = false) :
    '(' ∉ d.name := by
  have hbracket : '(' ∈ line := by
    have hkind : d.isField = !line.contains '(' := by
      unfold parse? at hparse
      dsimp only at hparse
      split at hparse
      next => cases hparse
      next =>
        split at hparse
        next => cases hparse; rfl
        next =>
          obtain ⟨_, _, rfl⟩ := Option.map_eq_some_iff.mp hparse
          rfl
    rw [hmethod] at hkind
    simpa using hkind.symm
  intro hmem
  have hhead := mem_head_of_mem_name hparse hmem
  rw [head_of_mem hbracket] at hhead
  simpa using List.mem_takeWhile_imp (Text.trim_subset _ hhead)

end Declaration

theorem descriptorOf?_subset {line descriptor : Text}
    (hdescriptor : descriptorOf? line = some descriptor) : descriptor ⊆ line := by
  obtain ⟨rest, hrest, rfl⟩ := Option.map_eq_some_iff.mp hdescriptor
  have htrim := Text.afterLabel?_eq_some_iff.mp hrest
  intro c hc
  have hmem : c ∈ Text.trim line := by
    rw [htrim]
    exact List.mem_append_right _ (Text.trim_subset _ hc)
  exact Text.trim_subset _ hmem

/-- A method of a class that was read comes from a declaration with brackets and
from a descriptor, each on one line. -/
theorem exists_lines_of_mem_methods {skips : Text → Bool}
    {classname text : Text} {c : Class}
    (hparse : parse skips classname text = .ok c) {m : Method}
    (hm : m ∈ c.methods) :
    ∃ line descriptor d, '\n' ∉ line ∧ '\n' ∉ descriptor ∧
      Declaration.parse? line = some d ∧ d.isField = false ∧ d.name = m.name ∧
        Descriptor.decodeMethod descriptor = .ok m.signature := by
  obtain ⟨b, hmembers, hbare, rfl⟩ := exists_isBare_of_parse hparse
  have hb : m.unmarked ∈ b.methods := by
    rw [← hbare.map_unmarked_inferProperties]
    exact List.mem_map_of_mem hm
  obtain ⟨members, hread, rfl⟩ := except_map_eq_ok_iff.mp hmembers
  obtain ⟨x, hx, hxm⟩ := List.mem_filterMap.mp hb
  cases x with
  | field f => cases hxm
  | method m' =>
      obtain rfl : m' = m.unmarked := Option.some.inj hxm
      obtain ⟨line, hline, next, hnext, hmember⟩ :=
        exists_of_mem_readMembers hread hx
      obtain ⟨descriptor, d, signature, hdescriptor, hd, _, hmethod, hdecode,
        heq⟩ := exists_of_readMember_method hmember
      have hname : d.name = m.name := (congrArg Method.name heq).symm
      have hsignature : signature = m.signature :=
        (congrArg Method.signature heq).symm
      rw [hsignature] at hdecode
      refine ⟨line, descriptor, d, ?_, ?_, hd, hmethod, hname, hdecode⟩
      · exact Text.newline_notMem_of_mem_lines (List.mem_of_mem_filter hline)
      · intro hmem
        exact Text.newline_notMem_of_mem_lines (List.mem_of_mem_filter hnext)
          (descriptorOf?_subset hdescriptor hmem)

end Listing

/-! ## Types -/

namespace Descriptor

theorem Token.name_subset (t : Token) : t.element.name ⊆ t.text := by
  intro c hc
  apply List.mem_append_right
  cases helement : t.element with
  | object name =>
      rw [helement] at hc
      exact List.mem_cons_of_mem _ (List.mem_append_left _ hc)
  | code x =>
      rw [helement] at hc
      exact hc

theorem Token.resultType_name_subset {t : Token} {type : TypeName}
    (htype : t.resultType = some type) : type.name ⊆ t.text := by
  unfold resultType at htype
  split at htype
  next => cases htype
  next =>
    cases htype
    intro c hc
    rcases List.mem_append.mp hc with hbracket | hname
    · exact List.mem_append_left _ hbracket
    · exact t.name_subset hname

end Descriptor

theorem Text.mem_joinWith {separator : Text} {ts : List Text} {c : Char}
    (hc : c ∈ Text.joinWith separator ts) :
    c ∈ separator ∨ ∃ t ∈ ts, c ∈ t := by
  induction ts using Text.joinWith.induct with
  | case1 => cases hc
  | case2 t => exact Or.inr ⟨t, by simp, hc⟩
  | case3 t u rest ih =>
      rw [Text.joinWith, List.mem_append, List.mem_append] at hc
      rcases hc with (hfirst | hseparator) | hrest
      · exact Or.inr ⟨t, by simp, hfirst⟩
      · exact Or.inl hseparator
      · rcases ih hrest with hseparator | ⟨t', ht', hmem⟩
        · exact Or.inl hseparator
        · exact Or.inr ⟨t', List.mem_cons_of_mem t ht', hmem⟩

/-- A signature is displayed in the characters of its descriptor, brackets,
commas, blanks and the letter for no result. -/
theorem Descriptor.mem_of_mem_display {raw : Text} {s : Signature}
    (hdecode : decodeMethod raw = .ok s) {c : Char} (hc : c ∈ s.display) :
    c ∈ raw ∨ c ∈ "(, )V".toList := by
  obtain ⟨arguments, result, hspells⟩ := exists_spelling_of_decodeMethod hdecode
  cases hspells.decodeMethod.symm.trans hdecode
  have hfixed : ∀ t ∈ ["(".toList, ", ".toList, ")".toList, ['V']],
      t ⊆ "(, )V".toList := by decide
  unfold Signature.display at hc
  rw [List.mem_append, List.mem_append, List.mem_append] at hc
  rcases hc with ((hopening | harguments) | hclosing) | hresult
  · exact Or.inr (hfixed _ (by simp) hopening)
  · rcases Text.mem_joinWith harguments with hseparator | ⟨name, hname, hmem⟩
    · exact Or.inr (hfixed _ (by simp) hseparator)
    · obtain ⟨type, htype, rfl⟩ := List.mem_map.mp hname
      obtain ⟨t, ht, rfl⟩ := List.mem_map.mp htype
      have hrow : c ∈ rowText arguments :=
        List.mem_flatMap.mpr ⟨t, ht, t.name_subset hmem⟩
      exact Or.inl (by rw [hspells.raw_eq]; simp [hrow])
  · exact Or.inr (hfixed _ (by simp) hclosing)
  · split at hresult
    next type htype =>
      have htext := Token.resultType_name_subset htype hresult
      exact Or.inl (by rw [hspells.raw_eq]; simp [htext])
    next => exact Or.inr (hfixed _ (by simp) hresult)

/-! ## Properties -/

/-- Putting in lower case makes letters only. -/
theorem CaseMap.eq_of_mem_lower {c d : Char} (hd : d ∈ CaseMap.lower c)
    (hnul : 0 < d.toNat) (hletter : d.toNat < 0x61) : d = c := by
  have hrows : ∀ row ∈ lowerRows, 0x61 ≤ (row.first : ℤ) + row.offset := by
    decide +kernel
  unfold lower at hd
  split at hd
  next =>
    rcases List.mem_cons.mp hd with rfl | hdot
    · exact absurd hletter (by decide)
    · rw [List.mem_singleton.mp hdot] at hletter
      exact absurd hletter (by decide)
  next =>
    split at hd
    next row hrow =>
      have hfirst := hrows row (List.mem_of_find?_eq_some hrow)
      have hcovers := List.find?_some hrow
      simp only [CaseRow.covers, Bool.and_eq_true, decide_eq_true_eq]
        at hcovers
      have hmove : 0x61 ≤ row.move c.toNat := by
        unfold CaseRow.move
        omega
      -- What is no character becomes the one with the code zero.
      rw [List.mem_singleton.mp hd] at hnul hletter
      by_cases hvalid : (row.move c.toNat).isValidChar
      · rw [Char.ofNat, dif_pos hvalid] at hletter
        have hcode : (Char.ofNatAux (row.move c.toNat) hvalid).toNat =
            row.move c.toNat := rfl
        omega
      · rw [Char.ofNat, dif_neg hvalid] at hnul
        exact absurd hnul (by decide)
    next => exact List.mem_singleton.mp hd

/-- No character of ASCII that is not a letter comes into the name of a
property. -/
theorem mem_of_mem_propertyName {stem : Text} {c : Char}
    (hc : c ∈ propertyName stem) (hnul : 0 < c.toNat)
    (hletter : c.toNat < 0x61) : c ∈ stem := by
  cases stem with
  | nil => cases hc
  | cons first rest =>
      rcases List.mem_append.mp hc with hfirst | hrest
      · rw [CaseMap.eq_of_mem_lower hfirst hnul hletter]
        exact List.mem_cons_self
      · exact List.mem_cons_of_mem first hrest

namespace Class

theorem Writes.exists_stem {c : Class} {property : Text} {i : ℕ}
    (hwrites : c.Writes property i) :
    ∃ m ∈ c.methods, ∃ stem, stem <:+ m.name ∧ propertyName stem = property := by
  obtain ⟨m, hm, hsetter, _⟩ := hwrites
  exact ⟨m, List.mem_of_getElem? hm, m.name.drop 3, List.drop_suffix 3 m.name,
    hsetter.derives⟩

/-- What its names and types cannot hold, however the class was read. -/
structure IsOneLine (c : Class) : Prop where
  name : ∀ m ∈ c.methods, '\n' ∉ m.name
  bracket : ∀ m ∈ c.methods, '(' ∉ m.name
  display : ∀ m ∈ c.methods, '\n' ∉ m.signature.display
  property : ∀ p ∈ c.properties, '\n' ∉ p.name ∧ '(' ∉ p.name

end Class

/-- What stands in the name of a property and is no letter stands in the name of
a method. -/
theorem Listing.exists_method_of_mem_property {skips : Text → Bool}
    {classname text : Text} {c : Class}
    (hparse : parse skips classname text = .ok c) {p : Property}
    (hp : p ∈ c.properties) {ch : Char} (hch : ch ∈ p.name)
    (hnul : 0 < ch.toNat) (hletter : ch.toNat < 0x61) :
    ∃ m ∈ c.methods, ch ∈ m.name := by
  obtain ⟨b, _, hbare, rfl⟩ := exists_isBare_of_parse hparse
  obtain ⟨m, hm, stem, hstem, hname⟩ :=
    (hbare.mem_inferProperties_iff.mp hp).1.1.exists_stem
  rw [← hname] at hch
  have hmem : ch ∈ m.name :=
    hstem.subset (mem_of_mem_propertyName hch hnul hletter)
  rw [← hbare.map_unmarked_inferProperties] at hm
  obtain ⟨m', hm', hunmarked⟩ := List.mem_map.mp hm
  rw [← hunmarked] at hmem
  exact ⟨m', hm', hmem⟩

theorem Listing.isOneLine_of_parse {skips : Text → Bool} {classname text : Text}
    {c : Class} (hparse : parse skips classname text = .ok c) : c.IsOneLine := by
  have hname : ∀ m ∈ c.methods, '\n' ∉ m.name := by
    intro m hm hmem
    obtain ⟨line, _, d, hline, _, hd, _, hdname, _⟩ :=
      exists_lines_of_mem_methods hparse hm
    rw [← hdname] at hmem
    exact hline (Declaration.mem_line_of_mem_head
      (Declaration.mem_head_of_mem_name hd hmem))
  have hbracket : ∀ m ∈ c.methods, '(' ∉ m.name := by
    intro m hm
    obtain ⟨_, _, d, _, _, hd, hmethod, hdname, _⟩ :=
      exists_lines_of_mem_methods hparse hm
    rw [← hdname]
    exact Declaration.bracket_notMem_name hd hmethod
  refine ⟨hname, hbracket, ?_, ?_⟩
  · intro m hm hmem
    obtain ⟨_, descriptor, _, _, hdescriptor, _, _, _, hdecode⟩ :=
      exists_lines_of_mem_methods hparse hm
    rcases Descriptor.mem_of_mem_display hdecode hmem with hraw | hfixed
    · exact hdescriptor hraw
    · exact absurd hfixed (by decide)
  · intro p hp
    constructor
    · intro hmem
      obtain ⟨m, hm, hin⟩ :=
        exists_method_of_mem_property hparse hp hmem (by decide) (by decide)
      exact hname m hm hin
    · intro hmem
      obtain ⟨m, hm, hin⟩ :=
        exists_method_of_mem_property hparse hp hmem (by decide) (by decide)
      exact hbracket m hm hin

end Stubgen

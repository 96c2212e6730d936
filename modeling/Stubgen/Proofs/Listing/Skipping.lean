import Stubgen.Proofs.Listing.Layout
import Stubgen.Proofs.Listing.Pairs
import Stubgen.Proofs.Listing.Parsed

/-!
# Leaving members out

A member is left out before its descriptor is looked at and before properties
are inferred, but after its two lines are known to be a declaration and a
descriptor line.  So a listing that is read without the members of some names
is read as if the lines of these members were not there: what is left keeps its
order, its faults and the properties that it makes by itself.
-/

namespace Stubgen
namespace Listing

open Text

/-- The two lines show a member of a skipped name, with any descriptor. -/
def showsSkipped (skips : Text → Bool)
    (declarationLine descriptorLine : Text) : Bool :=
  (descriptorOf? descriptorLine).isSome &&
    (Declaration.parse? declarationLine).any fun d => skips d.name

/-- The lines without the pairs that show a member of a skipped name. -/
def withoutSkipped (skips : Text → Bool) : List Text → List Text
  | declarationLine :: descriptorLine :: rest =>
    if showsSkipped skips declarationLine descriptorLine then
      withoutSkipped skips rest
    else declarationLine :: descriptorLine :: withoutSkipped skips rest
  | ls => ls

def Member.name : Member → Text
  | method m => m.name
  | field f => f.name

/-- How a listing is read when the members of some names are skipped. -/
structure LeavesOut (skips : Text → Bool) (classname text : Text) :
    Prop where
  members : parseMembers skips classname text =
    parseMembers (fun _ => false) classname
      (joinWith ['\n'] (withoutSkipped skips (cleanLines text)))
  inferred : parse skips classname text =
    parse (fun _ => false) classname
      (joinWith ['\n'] (withoutSkipped skips (cleanLines text)))
  faults : ∀ member descriptor source,
    parseMembers skips classname text =
        .error (.malformedDescriptor member descriptor source) →
      skips member = false
  kept : ∀ c, parseMembers (fun _ => false) classname text = .ok c →
    ∃ d : Class, parseMembers skips classname text = .ok d ∧
      parse skips classname text = .ok d.inferProperties ∧
      d.methods = c.methods.filter (fun m => !skips m.name) ∧
      d.fields = c.fields.filter (fun f => !skips f.name)
  accessors : ∀ c, parse skips classname text = .ok c →
    ∀ p ∈ c.properties, ∃ a, c.accessors? p = some a ∧
      skips a.getter.name = false ∧ skips a.setter.name = false

/-! ## One pair -/

/-- The lines are checked before the name is, and the descriptor after it. -/
theorem readMember_eq_ite (skips : Text → Bool)
    (declarationLine descriptorLine : Text) :
    readMember skips declarationLine descriptorLine =
      if showsSkipped skips declarationLine descriptorLine then .ok none
      else readMember (fun _ => false) declarationLine descriptorLine := by
  unfold readMember showsSkipped
  cases hlabel : descriptorOf? descriptorLine with
  | none => simp
  | some descriptor =>
      cases hname : Declaration.parse? declarationLine with
      | none => simp
      | some d =>
          cases hskips : skips d.name with
          | true => simp [hskips]
          | false => simp [hskips]

/-- A pair that can be read has a label and a name, and it gives a member of
that name unless the name is skipped. -/
theorem exists_declaration_of_readMember {skips : Text → Bool}
    {declarationLine descriptorLine : Text} {member : Option Member}
    (hread : readMember skips declarationLine descriptorLine = .ok member) :
    ∃ descriptor d, descriptorOf? descriptorLine = some descriptor ∧
      Declaration.parse? declarationLine = some d ∧
        ((skips d.name = true ∧ member = none) ∨
          (skips d.name = false ∧ ∃ m, member = some m ∧ m.name = d.name)) := by
  unfold readMember at hread
  split at hread
  next => cases hread
  next descriptor hlabel =>
    split at hread
    next => cases hread
    next d hname =>
      refine ⟨descriptor, d, hlabel, hname, ?_⟩
      cases hskips : skips d.name with
      | true =>
          rw [hskips, if_pos rfl] at hread
          cases hread
          exact Or.inl ⟨rfl, rfl⟩
      | false =>
          rw [hskips, if_neg Bool.false_ne_true] at hread
          split at hread <;> split at hread <;> cases hread <;>
            exact Or.inr ⟨rfl, _, rfl, rfl⟩

theorem readMember_filter {skips : Text → Bool}
    {declarationLine descriptorLine : Text} {member : Option Member}
    (hread : readMember (fun _ => false) declarationLine descriptorLine =
      .ok member) :
    readMember skips declarationLine descriptorLine =
      .ok (member.filter fun m => !skips m.name) := by
  obtain ⟨descriptor, d, hlabel, hname, hmember⟩ :=
    exists_declaration_of_readMember hread
  rcases hmember with ⟨hskipped, _⟩ | ⟨_, m, rfl, hm⟩
  · cases hskipped
  · rw [readMember_eq_ite, hread]
    cases hskips : skips d.name <;>
      simp [showsSkipped, hlabel, hname, hm, hskips, Option.filter]

/-! ## Lines in a row -/

theorem readMembers_withoutSkipped (skips : Text → Bool) (ls : List Text) :
    readMembers skips ls =
      readMembers (fun _ => false) (withoutSkipped skips ls) := by
  induction ls using readMembers.induct with
  | case1 => rfl
  | case2 line => rfl
  | case3 declarationLine descriptorLine rest ih =>
      rw [readMembers, readMember_eq_ite, withoutSkipped]
      split
      next =>
        rw [← ih]
        cases readMembers skips rest <;> rfl
      next =>
        rw [readMembers, ih]

theorem withoutSkipped_subset (skips : Text → Bool) (ls : List Text) :
    withoutSkipped skips ls ⊆ ls := by
  induction ls using withoutSkipped.induct skips with
  | case1 declarationLine descriptorLine rest hskipped ih =>
      rw [withoutSkipped, if_pos hskipped]
      intro line hline
      simp [ih hline]
  | case2 declarationLine descriptorLine rest hkept ih =>
      rw [withoutSkipped, if_neg hkept]
      intro line hline
      simp only [List.mem_cons] at hline ⊢
      rcases hline with rfl | rfl | hline
      · exact Or.inl rfl
      · exact Or.inr (Or.inl rfl)
      · exact Or.inr (Or.inr (ih hline))
  | case3 ls hls =>
      rw [withoutSkipped.eq_2 skips ls hls]
      exact List.Subset.refl ls

theorem readMembers_filter {skips : Text → Bool} {ls : List Text}
    {members : List Member}
    (hread : readMembers (fun _ => false) ls = .ok members) :
    readMembers skips ls = .ok (members.filter fun m => !skips m.name) := by
  induction ls using readMembers.induct generalizing members with
  | case1 =>
      cases hread
      rfl
  | case2 line => cases hread
  | case3 declarationLine descriptorLine rest ih =>
      rw [readMembers, except_bind_eq_ok_iff] at hread
      obtain ⟨member, hmember, hread⟩ := hread
      rw [except_bind_eq_ok_iff] at hread
      obtain ⟨others, hothers, hmembers⟩ := hread
      cases hmembers
      have htoList : (member.filter fun m => !skips m.name).toList =
          member.toList.filter fun m => !skips m.name := by
        cases member with
        | none => rfl
        | some m => cases hskips : skips m.name <;> simp [hskips, Option.filter]
      rw [readMembers, readMember_filter hmember, ih hothers,
        List.filter_append, ← htoList]
      rfl

theorem name_of_mem_readMembers {skips : Text → Bool} {ls : List Text}
    {members : List Member} (hread : readMembers skips ls = .ok members)
    {m : Member} (hm : m ∈ members) : skips m.name = false := by
  obtain ⟨declarationLine, _, descriptorLine, _, hmember⟩ :=
    exists_of_mem_readMembers hread hm
  obtain ⟨_, d, _, _, hkind⟩ := exists_declaration_of_readMember hmember
  rcases hkind with ⟨_, hnone⟩ | ⟨hkept, m', hsome, hname⟩
  · cases hnone
  · cases hsome
    rw [hname]
    exact hkept

/-! ## Classes -/

theorem methodsOf_filter (keep : Text → Bool) (members : List Member) :
    methodsOf (members.filter fun m => keep m.name) =
      (methodsOf members).filter fun m => keep m.name := by
  unfold methodsOf
  rw [List.filterMap_filter, List.filter_filterMap]
  apply List.filterMap_congr
  intro member _
  cases member with
  | method m => rfl
  | field f => exact ite_self none

theorem fieldsOf_filter (keep : Text → Bool) (members : List Member) :
    fieldsOf (members.filter fun m => keep m.name) =
      (fieldsOf members).filter fun f => keep f.name := by
  unfold fieldsOf
  rw [List.filterMap_filter, List.filter_filterMap]
  apply List.filterMap_congr
  intro member _
  cases member with
  | method m => exact ite_self none
  | field f => rfl

theorem parseMembers_withoutSkipped (skips : Text → Bool)
    (classname text : Text) :
    parseMembers skips classname text =
      parseMembers (fun _ => false) classname
        (joinWith ['\n'] (withoutSkipped skips (cleanLines text))) := by
  have hsubset := withoutSkipped_subset skips (cleanLines text)
  rw [parseMembers_eq_map, parseMembers_eq_map,
    readMembers_joinWith_of_subset _ hsubset, readMembers_withoutSkipped skips]

theorem name_of_mem_methods {skips : Text → Bool} {classname text : Text}
    {c : Class} (hparse : parse skips classname text = .ok c) {m : Method}
    (hm : m ∈ c.methods) : skips m.name = false := by
  obtain ⟨b, hb, hbare, rfl⟩ := exists_isBare_of_parse hparse
  obtain ⟨members, hread, rfl⟩ := parseMembers_eq_ok_iff.mp hb
  have hmethods := hbare.map_unmarked_inferProperties
  have hunmarked : m.unmarked ∈ methodsOf members := by
    change _ = methodsOf members at hmethods
    rw [← hmethods]
    exact List.mem_map_of_mem hm
  obtain ⟨member, hmember, heq⟩ := List.mem_filterMap.mp hunmarked
  cases member with
  | field f => cases heq
  | method m' =>
      cases heq
      exact name_of_mem_readMembers hread hmember

theorem parse_leavesOut (skips : Text → Bool) (classname text : Text) :
    LeavesOut skips classname text where
  members := parseMembers_withoutSkipped skips classname text
  inferred := by
    unfold parse
    rw [parseMembers_withoutSkipped]
  faults := by
    intro member descriptor source hparse
    rw [parseMembers_eq_error_iff] at hparse
    obtain ⟨_, _, _, _, _, hrest⟩ := hparse
    cases hrest with
    | pair hpair rest =>
        cases hpair with
        | field _ _ hkept _ _ => exact hkept
        | method _ _ hkept _ _ => exact hkept
  kept := by
    intro c hparse
    obtain ⟨members, hread, rfl⟩ := parseMembers_eq_ok_iff.mp hparse
    have hkept : parseMembers skips classname text =
        .ok (classOf classname (members.filter fun m => !skips m.name)) :=
      parseMembers_eq_ok_iff.mpr ⟨_, readMembers_filter hread, rfl⟩
    refine ⟨_, hkept, ?_, ?_, ?_⟩
    · unfold parse
      rw [hkept]
      rfl
    · exact methodsOf_filter (fun name => !skips name) members
    · exact fieldsOf_filter (fun name => !skips name) members
  accessors := by
    intro c hparse p hp
    obtain ⟨b, _, hbare, hc⟩ := exists_isBare_of_parse hparse
    have hcoherent : c.IsCoherent := by
      rw [hc]
      exact hbare.isCoherent_inferProperties
    obtain ⟨getter, setter, hgetter, hsetter, haccessors⟩ :=
      hcoherent.exists_accessors? hp
    exact ⟨_, haccessors,
      name_of_mem_methods hparse (List.mem_of_getElem? hgetter),
      name_of_mem_methods hparse (List.mem_of_getElem? hsetter)⟩

end Listing
end Stubgen

import Stubgen.Listing.Basic
import Stubgen.Proofs.Class.Pairing
import Stubgen.Proofs.Outcome
import Mathlib.Tactic

/-!
# What reading a listing returns

Every member of the result was read from two lines of the listing, and reading
leaves it to inference to mark methods and to add properties.
-/

namespace Stubgen
namespace Listing

/-- A method comes from a declaration line that is kept and shows parentheses,
and from a descriptor line with a method descriptor. -/
theorem exists_of_readMember_method {skips : Text → Bool}
    {declarationLine descriptorLine : Text} {m : Method}
    (hread : readMember skips declarationLine descriptorLine =
      .ok (some (.method m))) :
    ∃ descriptor d signature,
      descriptorOf? descriptorLine = some descriptor ∧
        Declaration.parse? declarationLine = some d ∧
        skips d.name = false ∧ d.isField = false ∧
        Descriptor.decodeMethod descriptor = .ok signature ∧
        m = ⟨d.name, d.isConstructor, d.isStatic, false, signature⟩ := by
  unfold readMember at hread
  split at hread
  next => cases hread
  next descriptor hdescriptor =>
    split at hread
    next => cases hread
    next d hdeclaration =>
      by_cases hskips : skips d.name = true
      · simp [hskips] at hread
      · by_cases hfield : d.isField = true
        · rw [if_neg hskips, if_pos hfield] at hread
          split at hread <;> cases hread
        · rw [if_neg hskips, if_neg hfield] at hread
          split at hread
          next signature hsignature =>
            cases hread
            exact ⟨descriptor, d, signature, hdescriptor, hdeclaration,
              Bool.eq_false_of_not_eq_true hskips,
              Bool.eq_false_of_not_eq_true hfield, hsignature, rfl⟩
          next => cases hread

theorem exists_of_mem_readMembers {skips : Text → Bool} {ls : List Text}
    {members : List Member} (hread : readMembers skips ls = .ok members)
    {x : Member} (hx : x ∈ members) :
    ∃ declarationLine ∈ ls, ∃ descriptorLine ∈ ls,
      readMember skips declarationLine descriptorLine = .ok (some x) := by
  induction ls using readMembers.induct generalizing members with
  | case1 =>
      cases hread
      cases hx
  | case2 line => cases hread
  | case3 declarationLine descriptorLine rest ih =>
      rw [readMembers, except_bind_eq_ok_iff] at hread
      obtain ⟨member, hmember, hread⟩ := hread
      rw [except_bind_eq_ok_iff] at hread
      obtain ⟨others, hothers, hmembers⟩ := hread
      cases hmembers
      rcases List.mem_append.mp hx with hfirst | hrest
      · rw [Option.mem_toList] at hfirst
        rw [hfirst] at hmember
        exact ⟨declarationLine, by simp, descriptorLine, by simp, hmember⟩
      · obtain ⟨d, hd, l, hl, hdl⟩ := ih hothers hrest
        exact ⟨d, by simp [hd], l, by simp [hl], hdl⟩

theorem isBare_of_parseMembers {skips : Text → Bool} {classname text : Text}
    {c : Class} (hparse : parseMembers skips classname text = .ok c) :
    c.IsBare := by
  obtain ⟨members, hread, rfl⟩ := except_map_eq_ok_iff.mp hparse
  refine ⟨rfl, ?_⟩
  intro m hm
  obtain ⟨x, hx, hxm⟩ := List.mem_filterMap.mp hm
  cases x with
  | field f => cases hxm
  | method m' =>
      cases hxm
      obtain ⟨_, _, _, _, hmember⟩ := exists_of_mem_readMembers hread hx
      obtain ⟨_, _, _, _, _, _, _, _, rfl⟩ := exists_of_readMember_method hmember
      rfl

/-- A class that was read is what inference makes of the bare class. -/
theorem exists_isBare_of_parse {skips : Text → Bool} {classname text : Text}
    {c : Class} (hparse : parse skips classname text = .ok c) :
    ∃ b : Class, parseMembers skips classname text = .ok b ∧ b.IsBare ∧
      c = b.inferProperties := by
  obtain ⟨b, hb, rfl⟩ := except_map_eq_ok_iff.mp hparse
  exact ⟨b, hb, isBare_of_parseMembers hb, rfl⟩

theorem isCoherent_of_parse {skips : Text → Bool} {classname text : Text}
    {c : Class} (hparse : parse skips classname text = .ok c) : c.IsCoherent := by
  obtain ⟨b, _, hbare, rfl⟩ := exists_isBare_of_parse hparse
  exact hbare.isCoherent_inferProperties

/-- A class goes by the name under which it was asked for. -/
theorem name_of_parse {skips : Text → Bool} {classname text : Text} {c : Class}
    (hparse : parse skips classname text = .ok c) : c.name = classname := by
  obtain ⟨b, hmembers, _, rfl⟩ := exists_isBare_of_parse hparse
  obtain ⟨members, _, rfl⟩ := except_map_eq_ok_iff.mp hmembers
  rw [Class.name_inferProperties]

end Listing
end Stubgen

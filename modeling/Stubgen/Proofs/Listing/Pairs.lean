import Stubgen.Listing.Basic
import Stubgen.Proofs.Outcome
import Mathlib.Tactic

/-!
# The first fault of a listing

The lines of a listing are read two at a time.  A pair is faulty for one of
three reasons, which are looked for in a fixed order, and a listing is faulty
where its first faulty pair stands, or in its last line if that line has no
partner.  Lines ahead of the first fault are read as if they stood alone.
-/

namespace Stubgen
namespace Listing

open Text

/-- Why the members of two lines cannot be read.  Every reason takes for granted
that the ones above it do not hold. -/
inductive PairFault (skips : Text → Bool)
    (declarationLine descriptorLine : Text) : Fault → Prop
  | noLabel (hlabel : descriptorOf? descriptorLine = none) :
      PairFault skips declarationLine descriptorLine
        (.missingDescriptor (trim declarationLine) (trim descriptorLine))
  | noName {descriptor : Text}
      (hlabel : descriptorOf? descriptorLine = some descriptor)
      (hname : Declaration.parse? declarationLine = none) :
      PairFault skips declarationLine descriptorLine
        (.emptyDeclaration (trim declarationLine))
  | field {descriptor : Text} {d : Declaration} {source : Descriptor.Fault}
      (hlabel : descriptorOf? descriptorLine = some descriptor)
      (hname : Declaration.parse? declarationLine = some d)
      (hkept : skips d.name = false) (hfield : d.isField = true)
      (hsource : Descriptor.decodeField descriptor = .error source) :
      PairFault skips declarationLine descriptorLine
        (.malformedDescriptor d.name descriptor source)
  | method {descriptor : Text} {d : Declaration} {source : Descriptor.Fault}
      (hlabel : descriptorOf? descriptorLine = some descriptor)
      (hname : Declaration.parse? declarationLine = some d)
      (hkept : skips d.name = false) (hmethod : d.isField = false)
      (hsource : Descriptor.decodeMethod descriptor = .error source) :
      PairFault skips declarationLine descriptorLine
        (.malformedDescriptor d.name descriptor source)

/-- The lines start with a fault. -/
inductive StartsWithFault (skips : Text → Bool) : List Text → Fault → Prop
  | unpaired (line : Text) :
      StartsWithFault skips [line] (.unpairedLine (trim line))
  | pair {declarationLine descriptorLine : Text} {fault : Fault}
      (hpair : PairFault skips declarationLine descriptorLine fault)
      (rest : List Text) :
      StartsWithFault skips (declarationLine :: descriptorLine :: rest) fault

/-- The lines are read up to a place where they go on with a fault. -/
def FirstFault (skips : Text → Bool) (ls : List Text) (fault : Fault) : Prop :=
  ∃ before members rest, ls = before ++ rest ∧
    readMembers skips before = .ok members ∧ StartsWithFault skips rest fault

/-! ## One pair -/

theorem readMember_eq_error_iff {skips : Text → Bool}
    {declarationLine descriptorLine : Text} {fault : Fault} :
    readMember skips declarationLine descriptorLine = .error fault ↔
      PairFault skips declarationLine descriptorLine fault := by
  unfold readMember
  constructor
  · intro hread
    split at hread
    next hlabel =>
      cases hread
      exact .noLabel hlabel
    next descriptor hlabel =>
      split at hread
      next hname =>
        cases hread
        exact .noName hlabel hname
      next d hname =>
        cases hskips : skips d.name with
        | true => simp [hskips] at hread
        | false =>
            cases hfield : d.isField with
            | true =>
                cases hsource : Descriptor.decodeField descriptor with
                | ok type => simp [hskips, hfield, hsource] at hread
                | error source =>
                    simp [hskips, hfield, hsource] at hread
                    subst hread
                    exact .field hlabel hname hskips hfield hsource
            | false =>
                cases hsource : Descriptor.decodeMethod descriptor with
                | ok signature => simp [hskips, hfield, hsource] at hread
                | error source =>
                    simp [hskips, hfield, hsource] at hread
                    subst hread
                    exact .method hlabel hname hskips hfield hsource
  · intro hfault
    cases hfault with
    | noLabel hlabel => rw [hlabel]
    | noName hlabel hname => rw [hlabel, hname]
    | field hlabel hname hkept hfield hsource =>
        simp [hlabel, hname, hkept, hfield, hsource]
    | method hlabel hname hkept hmethod hsource =>
        simp [hlabel, hname, hkept, hmethod, hsource]

theorem PairFault.ne_unpairedLine {skips : Text → Bool}
    {declarationLine descriptorLine line : Text}
    (hfault : PairFault skips declarationLine descriptorLine
      (.unpairedLine line)) : False := by
  cases hfault

/-! ## Lines in a row -/

theorem readMembers_append {skips : Text → Bool} {ls : List Text}
    {members : List Member} (hls : readMembers skips ls = .ok members)
    (rest : List Text) :
    readMembers skips (ls ++ rest) =
      (readMembers skips rest).map (members ++ ·) := by
  induction ls using readMembers.induct generalizing members with
  | case1 =>
      cases hls
      cases hrest : readMembers skips rest <;> simp [Except.map, hrest]
  | case2 line => cases hls
  | case3 declarationLine descriptorLine others ih =>
      rw [readMembers, except_bind_eq_ok_iff] at hls
      obtain ⟨member, hmember, hls⟩ := hls
      rw [except_bind_eq_ok_iff] at hls
      obtain ⟨later, hlater, hmembers⟩ := hls
      cases hmembers
      rw [List.cons_append, List.cons_append, readMembers, hmember, ih hlater]
      cases readMembers skips rest with
      | error fault => rfl
      | ok last =>
          change Except.ok (member.toList ++ (later ++ last)) = _
          rw [← List.append_assoc]
          rfl

theorem StartsWithFault.readMembers {skips : Text → Bool} {ls : List Text}
    {fault : Fault} (hls : StartsWithFault skips ls fault) :
    readMembers skips ls = .error fault := by
  cases hls with
  | unpaired line => rfl
  | pair hpair rest =>
      rw [Listing.readMembers, readMember_eq_error_iff.mpr hpair]
      rfl

theorem FirstFault.readMembers {skips : Text → Bool} {ls : List Text}
    {fault : Fault} (hls : FirstFault skips ls fault) :
    readMembers skips ls = .error fault := by
  obtain ⟨before, members, rest, rfl, hbefore, hrest⟩ := hls
  rw [readMembers_append hbefore, hrest.readMembers]
  rfl

/-- Reading fails with the first fault of the lines and with nothing else. -/
theorem readMembers_eq_error_iff {skips : Text → Bool} {ls : List Text}
    {fault : Fault} :
    readMembers skips ls = .error fault ↔ FirstFault skips ls fault := by
  refine ⟨?_, FirstFault.readMembers⟩
  intro hread
  induction ls using readMembers.induct with
  | case1 => cases hread
  | case2 line =>
      cases hread
      exact ⟨[], [], [line], rfl, rfl, .unpaired line⟩
  | case3 declarationLine descriptorLine others ih =>
      rw [Listing.readMembers] at hread
      cases hmember : readMember skips declarationLine descriptorLine with
      | error first =>
          rw [hmember] at hread
          cases hread
          exact ⟨[], [], _, rfl, rfl,
            .pair (readMember_eq_error_iff.mp hmember) others⟩
      | ok member =>
          cases hothers : Listing.readMembers skips others with
          | ok members =>
              rw [hmember, hothers] at hread
              cases hread
          | error later =>
              rw [hmember, hothers] at hread
              cases hread
              obtain ⟨before, members, rest, heq, hbefore, hrest⟩ := ih hothers
              refine ⟨declarationLine :: descriptorLine :: before,
                member.toList ++ members, rest, by simp [heq], ?_, hrest⟩
              rw [Listing.readMembers, hmember, hbefore]
              rfl

/-- A fault that is not the lack of a partner is there whatever follows. -/
theorem FirstFault.append {skips : Text → Bool} {ls : List Text}
    {fault : Fault} (hls : FirstFault skips ls fault)
    (hpaired : ∀ line, fault ≠ .unpairedLine line) (more : List Text) :
    FirstFault skips (ls ++ more) fault := by
  obtain ⟨before, members, rest, rfl, hbefore, hrest⟩ := hls
  refine ⟨before, members, rest ++ more, by simp, hbefore, ?_⟩
  cases hrest with
  | unpaired line => exact absurd rfl (hpaired (trim line))
  | pair hpair rest => exact .pair hpair (rest ++ more)

/-- A line without a partner is the last one, and the lines ahead of it can be
read. -/
theorem exists_of_firstFault_unpairedLine {skips : Text → Bool}
    {ls : List Text} {line : Text}
    (hls : FirstFault skips ls (.unpairedLine line)) :
    ∃ before last members, ls = before ++ [last] ∧ line = trim last ∧
      readMembers skips before = .ok members := by
  obtain ⟨before, members, rest, rfl, hbefore, hrest⟩ := hls
  cases hrest with
  | unpaired last => exact ⟨before, last, members, rfl, rfl, hbefore⟩
  | pair hpair rest => exact hpair.ne_unpairedLine.elim

/-! ## Classes -/

/-- The class of some members. -/
def classOf (classname : Text) (members : List Member) : Class :=
  ⟨classname, methodsOf members, fieldsOf members, []⟩

theorem parseMembers_eq_map (skips : Text → Bool) (classname text : Text) :
    parseMembers skips classname text =
      (readMembers skips (cleanLines text)).map (classOf classname) := rfl

theorem parseMembers_eq_ok_iff {skips : Text → Bool} {classname text : Text}
    {c : Class} :
    parseMembers skips classname text = .ok c ↔
      ∃ members, readMembers skips (cleanLines text) = .ok members ∧
        classOf classname members = c :=
  except_map_eq_ok_iff

theorem parseMembers_eq_error_iff {skips : Text → Bool} {classname text : Text}
    {fault : Fault} :
    parseMembers skips classname text = .error fault ↔
      FirstFault skips (cleanLines text) fault := by
  rw [← readMembers_eq_error_iff, parseMembers_eq_map]
  cases readMembers skips (cleanLines text) <;> simp [Except.map]

end Listing
end Stubgen

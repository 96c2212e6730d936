import Stubgen.Proofs.Listing.Layout
import Stubgen.Proofs.Listing.Pairs

/-!
# Reading on

A text that ends with a line can be read before the text behind it is known.
If it is faulty, so is the whole, for the same reason; if it is not, the
members behind it are added to its own.  The one thing that is left open is a
last declaration line without a partner, which is carried over to the text
behind.
-/

namespace Stubgen

/-- The class with the members of another one behind its own. -/
def Class.followedBy (c d : Class) : Class :=
  { c with methods := c.methods ++ d.methods, fields := c.fields ++ d.fields }

namespace Listing

open Text

/-- What the members of the text `a` say of those of `a ++ b`. -/
structure ReadsOn (skips : Text → Bool) (classname a b : Text) : Prop where
  settled : ∀ fault, parseMembers skips classname a = .error fault →
    (∀ line, fault ≠ .unpairedLine line) →
      parseMembers skips classname (a ++ b) = .error fault
  fails_iff : ∀ c, parseMembers skips classname a = .ok c →
    ∀ fault, parseMembers skips classname (a ++ b) = .error fault ↔
      parseMembers skips classname b = .error fault
  grows : ∀ c d, parseMembers skips classname a = .ok c →
    parseMembers skips classname b = .ok d →
      parseMembers skips classname (a ++ b) =
        .ok ⟨classname, c.methods ++ d.methods, c.fields ++ d.fields, []⟩
  carries : ∀ line, parseMembers skips classname a =
      .error (.unpairedLine line) →
    ∃ before last c, cleanLines a = before ++ [last] ∧ line = trim last ∧
      parseMembers skips classname (joinWith ['\n'] before) = .ok c ∧
      parseMembers skips classname (a ++ b) =
        (parseMembers skips classname (last ++ '\n' :: b)).map c.followedBy
  firstFault : ∀ fault, parseMembers skips classname a = .error fault ↔
    FirstFault skips (cleanLines a) fault

theorem methodsOf_append (first second : List Member) :
    methodsOf (first ++ second) = methodsOf first ++ methodsOf second :=
  List.filterMap_append

theorem fieldsOf_append (first second : List Member) :
    fieldsOf (first ++ second) = fieldsOf first ++ fieldsOf second :=
  List.filterMap_append

/-- Behind lines that can be read, the members of the other lines are added. -/
theorem map_classOf_readMembers_append {skips : Text → Bool} {ls : List Text}
    {members : List Member} (hls : readMembers skips ls = .ok members)
    (classname : Text) (rest : List Text) :
    (readMembers skips (ls ++ rest)).map (classOf classname) =
      ((readMembers skips rest).map (classOf classname)).map
        (classOf classname members).followedBy := by
  rw [readMembers_append hls]
  cases readMembers skips rest with
  | error fault => rfl
  | ok later =>
      simp only [Except.map, classOf, Class.followedBy, methodsOf_append,
        fieldsOf_append]

theorem parseMembers_append_of_ok {skips : Text → Bool} {classname a : Text}
    (ha : a = [] ∨ a.getLast? = some '\n') {c : Class}
    (hparse : parseMembers skips classname a = .ok c) (b : Text) :
    parseMembers skips classname (a ++ b) =
      (parseMembers skips classname b).map c.followedBy := by
  obtain ⟨members, hread, rfl⟩ := parseMembers_eq_ok_iff.mp hparse
  rw [parseMembers_eq_map, cleanLines_append ha]
  exact map_classOf_readMembers_append hread classname (cleanLines b)

theorem parseMembers_append_of_unpaired {skips : Text → Bool}
    {classname a line : Text} (ha : a = [] ∨ a.getLast? = some '\n')
    (hparse : parseMembers skips classname a = .error (.unpairedLine line))
    (b : Text) :
    ∃ before last c, cleanLines a = before ++ [last] ∧ line = trim last ∧
      parseMembers skips classname (joinWith ['\n'] before) = .ok c ∧
      parseMembers skips classname (a ++ b) =
        (parseMembers skips classname (last ++ '\n' :: b)).map
          c.followedBy := by
  obtain ⟨before, last, members, hlines, hline, hread⟩ :=
    exists_of_firstFault_unpairedLine (parseMembers_eq_error_iff.mp hparse)
  have hlast : last ∈ cleanLines a := by simp [hlines]
  have hbefore : before ⊆ cleanLines a := by simp [hlines]
  have hrest := readMembers_line_append skips
    (newline_notMem_of_mem_lines (List.mem_of_mem_filter hlast))
    (isNoise_of_mem_cleanLines hlast) b
  refine ⟨before, last, classOf classname members, hlines, hline, ?_, ?_⟩
  · rw [parseMembers_eq_map, readMembers_joinWith_of_subset skips hbefore,
      hread]
    rfl
  · rw [parseMembers_eq_map, parseMembers_eq_map, cleanLines_append ha, hlines,
      hrest, List.append_assoc]
    exact map_classOf_readMembers_append hread classname _

theorem parseMembers_readsOn (skips : Text → Bool) (classname a b : Text)
    (ha : a = [] ∨ a.getLast? = some '\n') : ReadsOn skips classname a b where
  settled := by
    intro fault hparse hpaired
    rw [parseMembers_eq_error_iff] at hparse ⊢
    rw [cleanLines_append ha]
    exact hparse.append hpaired (cleanLines b)
  fails_iff := by
    intro c hparse fault
    rw [parseMembers_append_of_ok ha hparse b]
    cases parseMembers skips classname b <;> simp [Except.map]
  grows := by
    intro c d hc hd
    rw [parseMembers_append_of_ok ha hc b, hd]
    obtain ⟨members, _, rfl⟩ := parseMembers_eq_ok_iff.mp hc
    rfl
  carries := by
    intro line hparse
    exact parseMembers_append_of_unpaired ha hparse b
  firstFault := fun _ => parseMembers_eq_error_iff

/-- A field, and a declaration line that stands at the end of the text. -/
def cutListing : Text :=
  "int count;\ndescriptor: I\n  void reset();\n\n".toList

theorem cutListing_readsOn :
    cutListing.getLast? = some '\n' ∧
      parseMembers (fun _ => false) "demo.Counter".toList cutListing =
        .error (.unpairedLine "void reset();".toList) ∧
      ReadsOn (fun _ => false) "demo.Counter".toList cutListing
        "  descriptor: ()V\n".toList := by
  have hlast : cutListing.getLast? = some '\n' := by decide
  refine ⟨hlast, by decide +kernel, ?_⟩
  exact parseMembers_readsOn _ _ _ _ (Or.inr hlast)

end Listing
end Stubgen

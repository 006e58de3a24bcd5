import ReportSegments.Json.Basic

/-!
This module contains what setting some names does to a list of members as a whole: the members with
other names stay as and where they are.
-/

namespace ReportSegments
namespace Members

/--
A list of members in which some names have new values, in place where a name was there and at the
end where it was not.
-/
inductive Revised (names : List String) :
    List (String × α) → List (String × α) → Prop where
  | added {members : List (String × α)} (h : ∀ member ∈ members, member.1 ∈ names) :
    Revised names [] members
  | kept (member : String × α) {old new : List (String × α)} (h : Revised names old new) :
    Revised names (member :: old) (member :: new)
  | replaced {name : String} (hname : name ∈ names) (before after : α)
    {old new : List (String × α)} (h : Revised names old new) :
    Revised names ((name, before) :: old) ((name, after) :: new)

namespace Revised

variable {names : List String} {old mid new : List (String × α)}

theorem refl (members : List (String × α)) : Revised names members members := by
  induction members with
  | nil => exact .added (by simp)
  | cons member rest ih => exact .kept member ih

theorem forall_mem (h : Revised names old new) (hold : ∀ member ∈ old, member.1 ∈ names) :
    ∀ member ∈ new, member.1 ∈ names := by
  induction h with
  | added h => exact h
  | kept member h ih =>
    rw [List.forall_mem_cons] at hold ⊢
    exact ⟨hold.1, ih hold.2⟩
  | replaced hname before after h ih =>
    rw [List.forall_mem_cons] at hold ⊢
    exact ⟨hname, ih hold.2⟩

theorem trans (hfirst : Revised names old mid) (hsecond : Revised names mid new) :
    Revised names old new := by
  induction hfirst generalizing new with
  | added h => exact .added (hsecond.forall_mem h)
  | kept member h ih =>
    cases hsecond with
    | kept _ h => exact .kept member (ih h)
    | replaced hname before after h => exact .replaced hname before after (ih h)
  | replaced hname before after h ih =>
    cases hsecond with
    | kept _ h => exact .replaced hname before after (ih h)
    | replaced _ _ last h => exact .replaced hname before last (ih h)

end Revised

theorem revised_set {names : List String} {name : String} (hname : name ∈ names) (value : α)
    (members : List (String × α)) : Revised names members (set name value members) := by
  induction members with
  | nil => exact .added (List.forall_mem_singleton.2 hname)
  | cons member rest ih =>
    rcases member with ⟨other, before⟩
    rw [set]
    split
    . next heq =>
      obtain rfl : other = name := heq
      exact .replaced hname before value (Revised.refl rest)
    . exact .kept (other, before) ih

end Members
end ReportSegments

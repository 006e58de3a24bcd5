import ReportSegments.Proofs.Json.Fields
import ReportSegments.Proofs.Json.Parse

/-!
This module contains that a written value is read back if it is not nested too deeply, and that it
is not read at all otherwise.
-/

namespace ReportSegments
namespace Json

open Dialect Progress

mutual

/--
How many containers of a value there are inside each other.
-/
def nesting : Json → Nat
  | array items => nestingItems items + 1
  | object members => nestingMembers members + 1
  | _ => 0

def nestingItems : List Json → Nat
  | [] => 0
  | item :: items => max (nesting item) (nestingItems items)

def nestingMembers : List (String × Json) → Nat
  | [] => 0
  | (_, value) :: members => max (nesting value) (nestingMembers members)

end

variable {limit : Nat} {value : Json}

/--
The values that come back out of their raw values if they are not nested too deeply.
-/
def Returns (limit : Nat) (value : Json) : Prop :=
  ∀ depth, (value.rawAt (strict limit) depth).json? =
    if value.nesting ≤ limit - depth then some value else none

theorem bind_bind_of_le (a b bound : Nat) (x : α) (y : β) (f : α → β → γ) :
    ((if a ≤ bound then some x else none).bind fun x =>
      (if b ≤ bound then some y else none).bind fun y => some (f x y)) =
      if max a b ≤ bound then some (f x y) else none := by
  by_cases ha : a ≤ bound
  . by_cases hb : b ≤ bound
    . rw [if_pos ha, if_pos hb, if_pos (Nat.max_le.2 ⟨ha, hb⟩)]
      rfl
    . rw [if_pos ha, if_neg hb, if_neg fun h => hb (Nat.max_le.1 h).2]
      rfl
  . rw [if_neg ha, if_neg fun h => ha (Nat.max_le.1 h).1]
    rfl

theorem jsonItems?_rawItems {items : List Json} (h : ∀ item ∈ items, item.Returns limit)
    (depth : Nat) :
    Raw.jsonItems? (rawItems (strict limit) depth items) =
      if nestingItems items ≤ limit - depth then some items else none := by
  induction items with
  | nil => rfl
  | cons item items ih =>
    obtain ⟨hitem, hitems⟩ := List.forall_mem_cons.1 h
    rw [rawItems, Raw.jsonItems?, hitem depth, ih hitems, nestingItems]
    apply bind_bind_of_le

theorem jsonMembers?_rawMembers {members : List (String × Json)}
    (h : ∀ member ∈ members, member.2.Returns limit) (depth : Nat) :
    Raw.jsonMembers? (rawMembers (strict limit) depth members) =
      if nestingMembers members ≤ limit - depth then some members else none := by
  induction members with
  | nil => rfl
  | cons member members ih =>
    obtain ⟨hmember, hmembers⟩ := List.forall_mem_cons.1 h
    rw [rawMembers, Raw.jsonMembers?, hmember depth, ih hmembers, nestingMembers]
    apply bind_bind_of_le (f := fun value members => (member.1, value) :: members)

theorem json?_readable (limit depth nested : Nat) {raw : Raw} {value : Json}
    (h : raw.json? = if nested ≤ limit - (depth + 1) then some value else none) :
    (readable (strict limit) (depth + 1) raw).json? =
      if nested + 1 ≤ limit - depth then some value else none := by
  have hreadable : readable (strict limit) (depth + 1) raw =
      if depth + 1 ≤ limit then raw else .unreadable := rfl
  rw [hreadable]
  split
  -- The container itself is read, so what counts is how deep its parts go.
  . rw [h]
    split
    . rw [if_pos]
      omega
    . rw [if_neg]
      omega
  . rw [if_neg]
    . rfl
    . omega

theorem returns_array {items : List Json} (h : ∀ item ∈ items, item.Returns limit) :
    (array items).Returns limit := by
  intro depth
  rw [rawAt, nesting]
  apply json?_readable
  rw [Raw.json?, jsonItems?_rawItems h]
  split <;> rfl

theorem returns_object {members : List (String × Json)} (hnames : (members.map Prod.fst).Nodup)
    (h : ∀ member ∈ members, member.2.Returns limit) : (object members).Returns limit := by
  intro depth
  rw [rawAt, nesting]
  apply json?_readable
  rw [Raw.json?, jsonMembers?_rawMembers h]
  split
  . rw [Option.map_some, Members.ofList_of_nodup hnames]
  . rfl

theorem Exact.returns (h : value.Exact) : value.Returns limit := by
  induction h with
  | array _ ih => exact returns_array ih
  | object hnames _ ih => exact returns_object hnames ih
  | _ =>
    intro depth
    exact (if_pos (Nat.zero_le _)).symm

/--
A value that is written in the compact form is read back if at most 127 of its containers are inside
each other, and nothing is read otherwise.
-/
theorem Exact.read?_compact (h : value.Exact) :
    read? value.compact = if value.nesting ≤ nestingLimit then some value else none := by
  unfold read? compact
  rw [read?_of_scans h h.scans_compactChars, Option.bind_some, h.returns, Nat.sub_zero]

end Json
end ReportSegments

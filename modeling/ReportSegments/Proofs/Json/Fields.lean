import ReportSegments.Json.Basic

/-!
This module contains how setting a field is seen by looking fields up, and that setting fields with
different names gives these fields.
-/

namespace ReportSegments

namespace Members

theorem lookup_set_self (name : String) (value : α) (members : List (String × α)) :
    (set name value members).lookup name = some value := by
  induction members with
  | nil => simp [set]
  | cons member rest ih =>
    rw [set]
    split
    . simp
    . next h =>
      have h : (name == member.1) = false := by
        rw [beq_eq_false_iff_ne]
        exact fun e => h e.symm
      rw [List.lookup_cons, h]
      exact ih

theorem lookup_set_of_ne {name other : String} (hne : other ≠ name) (value : α)
    (members : List (String × α)) :
    (set name value members).lookup other = members.lookup other := by
  have hfalse : (other == name) = false := beq_eq_false_iff_ne.2 hne
  induction members with
  | nil => simp [set, List.lookup_cons, hfalse]
  | cons member rest ih =>
    rw [set]
    split
    . next h =>
      rw [List.lookup_cons, List.lookup_cons, h, hfalse]
    . rw [List.lookup_cons, List.lookup_cons, ih]

theorem set_set (name : String) (first second : α) (members : List (String × α)) :
    set name second (set name first members) = set name second members := by
  induction members with
  | nil => simp [set]
  | cons member rest ih =>
    rw [set, set]
    split
    . rw [set, if_pos rfl]
    . next hne => rw [set, if_neg hne, ih]

/--
Giving a name the value that it has changes nothing.
-/
theorem set_of_lookup {name : String} {value : α} {members : List (String × α)}
    (h : members.lookup name = some value) : set name value members = members := by
  induction members with
  | nil => contradiction
  | cons member rest ih =>
    rw [set]
    split
    . next heq =>
      subst heq
      rw [List.lookup_cons_self, Option.some_inj] at h
      rw [← h]
    . next hne =>
      have hfalse : (name == member.1) = false := beq_eq_false_iff_ne.2 (Ne.symm hne)
      rw [List.lookup_cons, hfalse] at h
      rw [ih h]

/--
With different names, looking a name up finds the members.
-/
theorem mem_iff_lookup {members : List (String × α)} (h : (members.map Prod.fst).Nodup)
    {name : String} {value : α} : (name, value) ∈ members ↔ members.lookup name = some value := by
  induction members with
  | nil => simp
  | cons member rest ih =>
    rw [List.map_cons, List.nodup_cons] at h
    rw [List.mem_cons, List.lookup_cons, ih h.2]
    by_cases heq : name = member.1
    . subst heq
      have hrest : rest.lookup member.1 ≠ some value := by
        rw [ne_eq, ← ih h.2]
        intro hmem
        exact h.1 (List.mem_map.2 ⟨_, hmem, rfl⟩)
      rw [beq_self_eq_true]
      dsimp only
      rw [Option.some_inj, Prod.ext_iff]
      constructor
      . rintro (hmem | hmem)
        . exact hmem.2.symm
        . exact absurd hmem hrest
      . rintro rfl
        exact .inl ⟨rfl, rfl⟩
    . have hne : (name, value) ≠ member := by
        rintro rfl
        exact heq rfl
      rw [beq_eq_false_iff_ne.2 heq]
      dsimp only
      constructor
      . rintro (hmem | hmem)
        . exact absurd hmem hne
        . exact hmem
      . exact .inr

theorem set_of_not_mem {name : String} {members : List (String × α)}
    (h : name ∉ members.map Prod.fst) (value : α) :
    set name value members = members ++ [(name, value)] := by
  induction members with
  | nil => rfl
  | cons member rest ih =>
    rw [List.map_cons, List.mem_cons, not_or] at h
    rw [set, if_neg (Ne.symm h.1), ih h.2]
    rfl

theorem foldl_set_of_nodup {members done : List (String × α)}
    (h : ((done ++ members).map Prod.fst).Nodup) :
    members.foldl (fun done member => set member.1 member.2 done) done = done ++ members := by
  induction members generalizing done with
  | nil => exact (List.append_nil done).symm
  | cons member rest ih =>
    have hname : member.1 ∉ done.map Prod.fst := by
      rw [List.map_append, List.nodup_append] at h
      intro hmem
      exact h.2.2 _ hmem _ (List.mem_map_of_mem List.mem_cons_self) rfl
    rw [List.foldl_cons, set_of_not_mem hname, ih]
    . simp
    . simpa using h

/--
Members with different names stay as they are when they are set one after the other.
-/
theorem ofList_of_nodup {members : List (String × α)} (h : (members.map Prod.fst).Nodup) :
    ofList members = members := by
  unfold ofList
  rw [foldl_set_of_nodup]
  . rfl
  . exact h

theorem mem_of_mem_set {name : String} {value : α} {members : List (String × α)}
    {member : String × α} (h : member ∈ set name value members) :
    member = (name, value) ∨ member ∈ members := by
  induction members with
  | nil => exact .inl (List.mem_singleton.1 h)
  | cons first rest ih =>
    rw [set] at h
    split at h
    . exact (List.mem_cons.1 h).imp_right (List.mem_cons_of_mem first)
    . rcases List.mem_cons.1 h with rfl | h
      . exact .inr List.mem_cons_self
      . exact (ih h).imp_right (List.mem_cons_of_mem first)

theorem mem_of_mem_foldl_set {members done : List (String × α)} {member : String × α}
    (h : member ∈ members.foldl (fun done member => set member.1 member.2 done) done) :
    member ∈ done ∨ member ∈ members := by
  induction members generalizing done with
  | nil => exact .inl h
  | cons first rest ih =>
    rcases ih h with hdone | hrest
    . rcases mem_of_mem_set hdone with rfl | hmem
      . exact .inr List.mem_cons_self
      . exact .inl hmem
    . exact .inr (List.mem_cons_of_mem first hrest)

/--
Setting members one after the other makes up no new ones.
-/
theorem mem_of_mem_ofList {members : List (String × α)} {member : String × α}
    (h : member ∈ ofList members) : member ∈ members :=
  (mem_of_mem_foldl_set h).resolve_left List.not_mem_nil

end Members

namespace Fields

@[simp]
theorem get?_set_self (fields : Fields) (name : String) (value : Json) :
    (fields.set name value).get? name = some value := by
  apply Members.lookup_set_self

theorem get?_set_of_ne (fields : Fields) {name other : String} (hne : other ≠ name)
    (value : Json) : (fields.set name value).get? other = fields.get? other := by
  apply Members.lookup_set_of_ne hne

theorem nodup_entries (fields : Fields) : fields.entries.Nodup := by
  apply List.Pairwise.of_map Prod.fst _ fields.distinct
  intro member other hne heq
  exact hne (congrArg Prod.fst heq)

theorem ext_entries {fields other : Fields} (h : fields.entries = other.entries) :
    fields = other := by
  cases fields
  cases other
  simpa using h

/--
Fields in which the same is found are the same up to their order.
-/
theorem perm_of_get?_eq {fields other : Fields}
    (h : ∀ name, fields.get? name = other.get? name) : fields.entries.Perm other.entries := by
  rw [List.perm_ext_iff_of_nodup fields.nodup_entries other.nodup_entries]
  intro ⟨name, value⟩
  have hname : fields.entries.lookup name = other.entries.lookup name := h name
  rw [Members.mem_iff_lookup fields.distinct, Members.mem_iff_lookup other.distinct, hname]

theorem set_set (fields : Fields) (name : String) (first second : Json) :
    (fields.set name first).set name second = fields.set name second := by
  apply ext_entries
  apply Members.set_set

theorem set_of_get? {fields : Fields} {name : String} {value : Json}
    (h : fields.get? name = some value) : fields.set name value = fields := by
  apply ext_entries
  exact Members.set_of_lookup h

end Fields
end ReportSegments

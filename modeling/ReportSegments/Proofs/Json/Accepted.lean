import ReportSegments.Proofs.Json.RoundTrip

/-!
This module contains what is known of every value that is read, whatever the text: only so many of
its containers are inside each other, and in an object each name is there once.
-/

namespace ReportSegments

namespace Raw

theorem forall_mem_of_jsonItems? {raws : List Raw} {items : List Json}
    (h : jsonItems? raws = some items) : ∀ item ∈ items, ∃ raw ∈ raws, raw.json? = some item := by
  induction raws generalizing items with
  | nil =>
    obtain rfl := Option.some.inj h
    simp
  | cons raw raws ih =>
    simp only [jsonItems?, Option.bind_eq_bind, Option.bind_eq_some_iff, Option.pure_def,
      Option.some.injEq] at h
    obtain ⟨first, hfirst, rest, hrest, rfl⟩ := h
    rw [List.forall_mem_cons]
    refine ⟨⟨raw, List.mem_cons_self, hfirst⟩, ?_⟩
    intro item hitem
    obtain ⟨other, hmem, hother⟩ := ih hrest item hitem
    exact ⟨other, List.mem_cons_of_mem raw hmem, hother⟩

theorem forall_mem_of_jsonMembers? {entries : List (Option String × Raw)}
    {members : List (String × Json)} (h : jsonMembers? entries = some members) :
    ∀ member ∈ members, ∃ entry ∈ entries, entry.2.json? = some member.2 := by
  induction entries generalizing members with
  | nil =>
    obtain rfl := Option.some.inj h
    simp
  | cons entry entries ih =>
    simp only [jsonMembers?, Option.bind_eq_bind, Option.bind_eq_some_iff, Option.pure_def,
      Option.some.injEq] at h
    obtain ⟨name, -, first, hfirst, rest, hrest, rfl⟩ := h
    rw [List.forall_mem_cons]
    refine ⟨⟨entry, List.mem_cons_self, hfirst⟩, ?_⟩
    intro member hmember
    obtain ⟨other, hmem, hother⟩ := ih hrest member hmember
    exact ⟨other, List.mem_cons_of_mem entry hmem, hother⟩

theorem json?_list_eq_some {raws : List Raw} {value : Json} (h : (list raws).json? = some value) :
    ∃ items, value = .array items ∧ ∀ item ∈ items, ∃ raw ∈ raws, raw.json? = some item := by
  rw [json?, Option.map_eq_some_iff] at h
  obtain ⟨items, hitems, rfl⟩ := h
  exact ⟨items, rfl, forall_mem_of_jsonItems? hitems⟩

theorem json?_table_eq_some {entries : List (Option String × Raw)} {value : Json}
    (h : (table entries).json? = some value) :
    ∃ members, value = .object members ∧ (members.map Prod.fst).Nodup ∧
      ∀ member ∈ members, ∃ entry ∈ entries, entry.2.json? = some member.2 := by
  rw [json?, Option.map_eq_some_iff] at h
  obtain ⟨members, hmembers, rfl⟩ := h
  refine ⟨_, rfl, Members.nodup_ofList members, ?_⟩
  intro member hmember
  exact forall_mem_of_jsonMembers? hmembers member (Members.mem_of_mem_ofList hmember)

end Raw

namespace Json

/--
Values whose numbers are integers.
-/
inductive Integral : Json → Prop where
  | null : Integral null
  | bool (b : Bool) : Integral (bool b)
  | integer (n : Integer) : Integral (number (.integer n))
  | string (s : String) : Integral (string s)
  | array {items : List Json} (hitems : ∀ item ∈ items, Integral item) : Integral (array items)
  | object {members : List (String × Json)} (hvalues : ∀ member ∈ members, Integral member.2) :
    Integral (object members)

/--
What is read is exact if its numbers are: no object has a name twice, even if its text has.
-/
theorem Integral.exact_of_json? {value : Json} (h : value.Integral) {raw : Raw}
    (hraw : raw.json? = some value) : value.Exact := by
  induction h generalizing raw with
  | null => exact .null
  | bool b => exact .bool b
  | integer n => exact .integer n
  | string s => exact .string s
  | @array items _ ih =>
    apply Exact.array
    intro item hitem
    cases raw with
    | list raws =>
      obtain ⟨_, heq, hitems⟩ := Raw.json?_list_eq_some hraw
      obtain rfl := array.inj heq
      obtain ⟨other, -, hother⟩ := hitems item hitem
      exact ih item hitem hother
    | table entries =>
      obtain ⟨_, heq, -⟩ := Raw.json?_table_eq_some hraw
      contradiction
    | _ => simp [Raw.json?] at hraw
  | @object members _ ih =>
    cases raw with
    | list raws =>
      obtain ⟨_, heq, -⟩ := Raw.json?_list_eq_some hraw
      contradiction
    | table entries =>
      obtain ⟨_, heq, hnames, hmembers⟩ := Raw.json?_table_eq_some hraw
      obtain rfl := object.inj heq
      apply Exact.object hnames
      intro member hmember
      obtain ⟨entry, -, hentry⟩ := hmembers member hmember
      exact ih member hmember hentry
    | _ => simp [Raw.json?] at hraw

theorem Integral.exact_of_read? {value : Json} (h : value.Integral) {s : String}
    (hread : read? s = some value) : value.Exact := by
  unfold read? at hread
  obtain ⟨raw, -, hraw⟩ := Option.bind_eq_some_iff.1 hread
  exact h.exact_of_json? hraw

theorem nestingItems_le {items : List Json} {bound : Nat}
    (h : ∀ item ∈ items, item.nesting ≤ bound) : nestingItems items ≤ bound := by
  induction items with
  | nil => exact Nat.zero_le bound
  | cons item items ih =>
    obtain ⟨hitem, hitems⟩ := List.forall_mem_cons.1 h
    exact Nat.max_le.2 ⟨hitem, ih hitems⟩

theorem nestingMembers_le {members : List (String × Json)} {bound : Nat}
    (h : ∀ member ∈ members, member.2.nesting ≤ bound) : nestingMembers members ≤ bound := by
  induction members with
  | nil => exact Nat.zero_le bound
  | cons member members ih =>
    obtain ⟨hmember, hmembers⟩ := List.forall_mem_cons.1 h
    exact Nat.max_le.2 ⟨hmember, ih hmembers⟩

end Json

/--
A raw value that is read as no value with more containers inside each other.
-/
def Raw.Fits (bound : Nat) (raw : Raw) : Prop :=
  ∀ value, raw.json? = some value → value.nesting ≤ bound

namespace Raw

variable {bound : Nat}

theorem fits_unreadable (bound : Nat) : unreadable.Fits bound := by
  intro value h
  contradiction

theorem fits_scalar {raw : Raw} {value : Json} (hraw : raw.json? = some value)
    (hvalue : value.nesting = 0) (bound : Nat) : raw.Fits bound := by
  intro other hother
  obtain rfl := Option.some.inj (hraw.symm.trans hother)
  rw [hvalue]
  exact Nat.zero_le bound

theorem fits_list {raws : List Raw} (h : ∀ raw ∈ raws, raw.Fits bound) :
    (list raws).Fits (bound + 1) := by
  intro value hvalue
  obtain ⟨items, rfl, hitems⟩ := json?_list_eq_some hvalue
  apply Nat.succ_le_succ
  apply Json.nestingItems_le
  intro item hitem
  obtain ⟨raw, hmem, hraw⟩ := hitems item hitem
  exact h raw hmem item hraw

theorem fits_table {entries : List (Option String × Raw)}
    (h : ∀ entry ∈ entries, entry.2.Fits bound) : (table entries).Fits (bound + 1) := by
  intro value hvalue
  obtain ⟨members, rfl, -, hmembers⟩ := json?_table_eq_some hvalue
  apply Nat.succ_le_succ
  apply Json.nestingMembers_le
  intro member hmember
  obtain ⟨entry, hmem, hentry⟩ := hmembers member hmember
  exact h entry hmem member.2 hentry

end Raw

namespace Json

open Dialect

theorem fits_readWord? {cs : List Char} {raw : Raw} (h : Strict.readWord? cs = some raw)
    (bound : Nat) : raw.Fits bound := by
  unfold Strict.readWord? at h
  split at h
  . obtain rfl := Option.some.inj h
    exact Raw.fits_scalar rfl rfl bound
  . obtain rfl := Option.some.inj h
    exact Raw.fits_scalar rfl rfl bound
  . obtain rfl := Option.some.inj h
    exact Raw.fits_scalar rfl rfl bound
  . obtain ⟨l, -, rfl⟩ := Option.map_eq_some_iff.1 h
    cases Strict.number? l with
    | none => exact Raw.fits_unreadable bound
    | some n => exact Raw.fits_scalar rfl rfl bound

/--
Whether what is complete of an open container fits.
-/
def Frame.Fits (bound : Nat) : Frame → Prop
  | .list reversed => ∀ raw ∈ reversed, raw.Fits bound
  | .table reversed => ∀ entry ∈ reversed, entry.2.Fits bound
  | .entry reversed _ => ∀ entry ∈ reversed, entry.2.Fits bound

namespace Progress

/--
Whether what is complete of the open containers fits, each in what its place leaves of the limit.
-/
def StackFits (limit : Nat) : List Frame → Prop
  | [] => True
  | frame :: stack => frame.Fits (limit - (stack.length + 1)) ∧ StackFits limit stack

def Fits (limit : Nat) : Progress → Prop
  | .expecting _ stack => StackFits limit stack
  | .finished value => value.Fits limit

variable {limit : Nat} {stack : List Frame} {progress next : Progress} {lexeme : Lexeme}

theorem fits_readable (limit depth : Nat) {raw : Raw} (h : raw.Fits (limit - (depth + 1) + 1)) :
    (readable (strict limit) (depth + 1) raw).Fits (limit - depth) := by
  have hreadable : readable (strict limit) (depth + 1) raw =
      if depth + 1 ≤ limit then raw else .unreadable := rfl
  rw [hreadable]
  split
  . have hbound : limit - (depth + 1) + 1 = limit - depth := by omega
    rwa [hbound] at h
  . exact Raw.fits_unreadable _

theorem fits_place? {value : Raw} (hvalue : value.Fits (limit - stack.length))
    (hstack : StackFits limit stack) (h : place? value stack = some next) : next.Fits limit := by
  fun_cases place? value stack with
  | case1 =>
    obtain rfl := Option.some.inj h
    exact hvalue
  | case2 reversed stack =>
    obtain rfl := Option.some.inj h
    exact ⟨List.forall_mem_cons.2 ⟨hvalue, hstack.1⟩, hstack.2⟩
  | case3 reversed name stack =>
    obtain rfl := Option.some.inj h
    exact ⟨List.forall_mem_cons.2 ⟨hvalue, hstack.1⟩, hstack.2⟩
  | case4 => contradiction

theorem fits_close? {c : Char} (hstack : StackFits limit stack)
    (h : close? (strict limit) c stack = some next) : next.Fits limit := by
  unfold close? at h
  split at h
  . next reversed rest =>
    refine fits_place? (fits_readable limit rest.length ?_) hstack.2 h
    apply Raw.fits_list
    intro raw hraw
    exact hstack.1 raw (List.mem_reverse.1 hraw)
  . next reversed rest =>
    refine fits_place? (fits_readable limit rest.length ?_) hstack.2 h
    apply Raw.fits_table
    intro entry hentry
    exact hstack.1 entry (List.mem_reverse.1 hentry)
  . contradiction

theorem fits_value? (hstack : StackFits limit stack)
    (h : value? (strict limit) stack lexeme = some next) : next.Fits limit := by
  unfold value? at h
  split at h
  . obtain rfl := Option.some.inj h
    exact ⟨List.forall_mem_nil _, hstack⟩
  . obtain rfl := Option.some.inj h
    exact ⟨List.forall_mem_nil _, hstack⟩
  . contradiction
  . obtain ⟨raw, hraw, hplace⟩ := Option.bind_eq_some_iff.1 h
    exact fits_place? (fits_readWord? hraw _) hstack hplace
  . obtain ⟨s, -, hplace⟩ := Option.bind_eq_some_iff.1 h
    cases s with
    | none => exact fits_place? (Raw.fits_unreadable _) hstack hplace
    | some s => exact fits_place? (Raw.fits_scalar rfl rfl _) hstack hplace

theorem fits_name? {d : Dialect} (hstack : StackFits limit stack)
    (h : name? d stack lexeme = some next) : next.Fits limit := by
  unfold name? at h
  split at h
  . obtain ⟨name, -, rfl⟩ := Option.map_eq_some_iff.1 h
    exact hstack
  . obtain ⟨name, -, rfl⟩ := Option.map_eq_some_iff.1 h
    exact hstack
  . contradiction

theorem fits_comma? {d : Dialect} (hstack : StackFits limit stack)
    (h : comma? d stack = some next) : next.Fits limit := by
  unfold comma? at h
  split at h
  . obtain rfl := Option.some.inj h
    exact hstack
  . obtain rfl := Option.some.inj h
    exact hstack
  . contradiction

/--
One lexeme: what was complete still fits, and so does what it completes.
-/
theorem fits_step? (hfits : progress.Fits limit)
    (h : step? (strict limit) progress lexeme = some next) : next.Fits limit := by
  unfold step? at h
  split at h
  . contradiction
  . exact fits_value? hfits h
  . exact fits_close? hfits h
  . exact fits_value? hfits h
  . exact fits_name? hfits h
  . exact fits_close? hfits h
  . exact fits_name? hfits h
  . obtain rfl := Option.some.inj h
    exact hfits
  . contradiction
  . exact fits_comma? hfits h
  . exact fits_close? hfits h
  . contradiction

theorem fits_foldlM {lexemes : List Lexeme} (hfits : progress.Fits limit)
    (h : lexemes.foldlM (step? (strict limit)) progress = some next) : next.Fits limit := by
  induction lexemes generalizing progress with
  | nil =>
    obtain rfl := Option.some.inj h
    exact hfits
  | cons lexeme lexemes ih =>
    rw [List.foldlM_cons] at h
    obtain ⟨between, hstep, hrest⟩ := Option.bind_eq_some_iff.1 h
    exact ih (fits_step? hfits hstep) hrest

end Progress

/--
No more containers of a value that is read are inside each other than may be open in its text.
-/
theorem nesting_le_of_read? {s : String} {value : Json} (h : read? s = some value) :
    value.nesting ≤ nestingLimit := by
  unfold read? Dialect.read? Dialect.parse? at h
  obtain ⟨raw, hraw, hvalue⟩ := Option.bind_eq_some_iff.1 h
  obtain ⟨lexemes, -, hparse⟩ := Option.bind_eq_some_iff.1 hraw
  obtain ⟨progress, hrun, hresult⟩ := Option.bind_eq_some_iff.1 hparse
  have hstart : Progress.start.Fits nestingLimit := trivial
  have hfits : progress.Fits nestingLimit := Progress.fits_foldlM hstart hrun
  cases progress with
  | finished found =>
    obtain rfl := Option.some.inj hresult
    exact hfits value hvalue
  | expecting what stack => contradiction

end Json
end ReportSegments

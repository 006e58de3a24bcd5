import Mathlib.Data.Finset.Card
import ReportSegments.Proofs.Json.Fields
import ReportSegments.Segment.Registry

/-!
This module contains what a registry stands for: the keys in the order in which each of them came in
first, and a name for each key. Registering a segment gives its key a new name; the entries of
another registry count only for keys without one, and of these only the first of each key.
-/

namespace ReportSegments

theorem eraseDups_concat (keys : List String) (key : String) :
    (keys ++ [key]).eraseDups =
      if key ∈ keys.eraseDups then keys.eraseDups else keys.eraseDups ++ [key] := by
  rw [List.eraseDups_append]
  split
  . next h =>
    rw [List.mem_eraseDups] at h
    simp [List.removeAll, h]
  . next h =>
    rw [List.mem_eraseDups] at h
    simp [List.removeAll, List.eraseDups_cons, h]

theorem nodup_eraseDups (keys : List String) : keys.eraseDups.Nodup := by
  induction keys using List.reverseRecOn with
  | nil => exact List.nodup_nil
  | append_singleton keys key ih =>
    rw [eraseDups_concat]
    split
    . exact ih
    . next h =>
      rw [← List.concat_eq_append]
      exact ih.concat h

namespace Registry

def keys (registry : Registry) : List String :=
  registry.entries.map Prod.fst

theorem displayName?_eq_none_iff {registry : Registry} {key : String} :
    registry.displayName? key = none ↔ key ∉ registry.keys := by
  unfold displayName? keys
  rw [List.lookup_eq_none_iff]
  simp only [List.mem_map, not_exists, not_and, bne_iff_ne, ne_eq, @eq_comm _ key]

section Insert

theorem entries_insert (registry : Registry) (key name : String) :
    (registry.insert key name).entries = Members.set key name registry.entries := by
  change insert.go key name registry.entries = _
  induction registry.entries with
  | nil => rfl
  | cons entry rest ih => rw [insert.go, Members.set, ih]

theorem keys_insert (registry : Registry) (key name : String) :
    (registry.insert key name).keys =
      if key ∈ registry.keys then registry.keys else registry.keys ++ [key] := by
  unfold keys
  rw [entries_insert, Members.names_set]

theorem displayName?_insert (registry : Registry) (key name : String) :
    (registry.insert key name).displayName? =
      Function.update registry.displayName? key (some name) := by
  funext other
  unfold displayName?
  rw [entries_insert]
  by_cases h : other = key
  . subst h
    rw [Function.update_self, Members.lookup_set_self]
  . rw [Function.update_of_ne h, Members.lookup_set_of_ne h]

end Insert

section ExtendMissing

/--
Adds an entry whose key is not known yet.
-/
def addMissing (registry : Registry) (entry : String × String) : Registry :=
  match registry.displayName? entry.1 with
  | some _ => registry
  | none => ⟨registry.entries ++ [entry]⟩

theorem extendMissing_eq (registry other : Registry) :
    registry.extendMissing other = other.entries.foldl addMissing registry :=
  rfl

theorem keys_addMissing (registry : Registry) (entry : String × String) :
    (registry.addMissing entry).keys =
      if entry.1 ∈ registry.keys then registry.keys else registry.keys ++ [entry.1] := by
  unfold addMissing
  cases hname : registry.displayName? entry.1 with
  | some name =>
    rw [if_pos]
    by_contra hkey
    rw [displayName?_eq_none_iff.2 hkey] at hname
    contradiction
  | none =>
    rw [if_neg (displayName?_eq_none_iff.1 hname)]
    exact List.map_append

theorem displayName?_addMissing (registry : Registry) (entry : String × String) (key : String) :
    (registry.addMissing entry).displayName? key =
      (registry.displayName? key).or ([entry].lookup key) := by
  rcases entry with ⟨known, given⟩
  unfold addMissing
  cases hname : registry.displayName? known with
  | some name =>
    by_cases h : key = known
    . rw [h, hname, Option.some_or]
    . rw [List.lookup_cons, beq_eq_false_iff_ne.2 h]
      exact Option.or_none.symm
  | none => exact List.lookup_append

theorem displayName?_extendMissing (registry other : Registry) (key : String) :
    (registry.extendMissing other).displayName? key =
      (registry.displayName? key).or (other.entries.lookup key) := by
  rw [extendMissing_eq]
  induction other.entries generalizing registry with
  | nil => simp
  | cons entry rest ih =>
    rw [List.foldl_cons, ih, displayName?_addMissing, Option.or_assoc, ← List.lookup_append]
    rfl

end ExtendMissing

section Keys

variable {α : Type} {step : Registry → α → Registry} {key : α → String}

/--
Where each step brings in at most one key, at the end, the keys are those that were to come in, each
where it came first.
-/
theorem keys_foldl
    (hstep : ∀ registry x, (step registry x).keys =
      if key x ∈ registry.keys then registry.keys else registry.keys ++ [key x])
    {registry : Registry} {entered : List String} (h : registry.keys = entered.eraseDups)
    (xs : List α) : (xs.foldl step registry).keys = (entered ++ xs.map key).eraseDups := by
  induction xs generalizing registry entered with
  | nil => simpa using h
  | cons x xs ih =>
    have hnext : (step registry x).keys = (entered ++ [key x]).eraseDups := by
      rw [hstep, h, eraseDups_concat]
    rw [List.foldl_cons, ih hnext, List.append_assoc, List.map_cons, List.singleton_append]

theorem keys_extendMissing {registry : Registry} {entered : List String}
    (h : registry.keys = entered.eraseDups) (other : Registry) :
    (registry.extendMissing other).keys = (entered ++ other.keys).eraseDups :=
  keys_foldl keys_addMissing h other.entries

theorem keys_ofSegments (segments : List Segment) :
    (ofSegments segments).keys = (segments.map Segment.key).eraseDups := by
  have hempty : keys {} = [].eraseDups := rfl
  have hinsert (registry : Registry) (segment : Segment) :=
    keys_insert registry segment.key segment.displayName
  have hkeys := keys_foldl hinsert hempty segments
  rw [List.nil_append] at hkeys
  exact hkeys

end Keys

/--
Of several segments with the same key, the last one gives the name.
-/
theorem displayName?_ofSegments (segments : List Segment) (key : String) :
    (ofSegments segments).displayName? key =
      (segments.reverse.find? fun segment => segment.key == key).map Segment.displayName := by
  unfold ofSegments
  induction segments using List.reverseRecOn with
  | nil => rfl
  | append_singleton segments segment ih =>
    rw [List.foldl_append, List.foldl_cons, List.foldl_nil, displayName?_insert,
      List.reverse_append, List.reverse_singleton, List.singleton_append, List.find?_cons]
    by_cases h : key = segment.key
    . subst h
      rw [Function.update_self, beq_self_eq_true]
      rfl
    . rw [Function.update_of_ne h, ih, beq_eq_false_iff_ne.2 (Ne.symm h)]

/--
What can be done to a registry.
-/
inductive Change where
  | insert (key name : String)
  | extendMissing (other : Registry)

namespace Change

def apply (registry : Registry) : Change → Registry
  | insert key name => registry.insert key name
  | extendMissing other => registry.extendMissing other

/--
The keys that a change is to bring in, in this order.
-/
def keys : Change → List String
  | insert key _ => [key]
  | extendMissing other => other.keys

/--
What a change does to a map from keys to names.
-/
def rename (names : String → Option String) : Change → String → Option String
  | insert key name => Function.update names key (some name)
  | extendMissing other => fun key => (names key).or (other.entries.lookup key)

theorem displayName?_apply (registry : Registry) (change : Change) :
    (change.apply registry).displayName? = change.rename registry.displayName? := by
  cases change with
  | insert key name => exact displayName?_insert registry key name
  | extendMissing other => exact funext (displayName?_extendMissing registry other)

theorem keys_apply {registry : Registry} {entered : List String}
    (h : registry.keys = entered.eraseDups) (change : Change) :
    (change.apply registry).keys = (entered ++ change.keys).eraseDups := by
  cases change with
  | insert key name =>
    change (registry.insert key name).keys = (entered ++ [key]).eraseDups
    rw [keys_insert, h, eraseDups_concat]
  | extendMissing other => exact keys_extendMissing h other

end Change

/--
How a registry comes into being.
-/
inductive Origin where
  | empty
  | ofSegments (segments : List Segment)

namespace Origin

def registry : Origin → Registry
  | empty => {}
  | ofSegments segments => .ofSegments segments

def keys : Origin → List String
  | empty => []
  | ofSegments segments => segments.map Segment.key

def names : Origin → String → Option String
  | empty => fun _ => none
  | ofSegments segments => fun key =>
    (segments.reverse.find? fun segment => segment.key == key).map Segment.displayName

theorem displayName?_registry (origin : Origin) : origin.registry.displayName? = origin.names := by
  cases origin with
  | empty => rfl
  | ofSegments segments => exact funext (displayName?_ofSegments segments)

theorem keys_registry (origin : Origin) : origin.registry.keys = origin.keys.eraseDups := by
  cases origin with
  | empty => rfl
  | ofSegments segments => exact keys_ofSegments segments

end Origin

def run (registry : Registry) (changes : List Change) : Registry :=
  changes.foldl Change.apply registry

theorem displayName?_run (registry : Registry) (changes : List Change) :
    (registry.run changes).displayName? = changes.foldl Change.rename registry.displayName? := by
  unfold run
  rw [List.foldl_hom displayName?]
  intro registry change
  rw [Change.displayName?_apply]

theorem keys_run {registry : Registry} {entered : List String}
    (h : registry.keys = entered.eraseDups) (changes : List Change) :
    (registry.run changes).keys = (entered ++ changes.flatMap Change.keys).eraseDups := by
  unfold run
  induction changes generalizing registry entered with
  | nil => simpa using h
  | cons change changes ih =>
    rw [List.foldl_cons, ih (change.keys_apply h), List.flatMap_cons, List.append_assoc]

theorem size_eq {registry : Registry} {entered : List String}
    (h : registry.keys = entered.eraseDups) : registry.size = entered.toFinset.card := by
  have hkeys : entered.toFinset = registry.keys.toFinset := by
    ext key
    rw [List.mem_toFinset, List.mem_toFinset, h, List.mem_eraseDups]
  have hnodup : registry.keys.Nodup := by
    rw [h]
    exact nodup_eraseDups entered
  rw [hkeys, List.toFinset_card_of_nodup hnodup]
  unfold keys
  rw [List.length_map]
  rfl

/--
Whatever is done to a registry, it has each key once, in the order in which the keys came in first,
with the name that the changes gave it, and as many entries as there are different keys.
-/
theorem contents_run (origin : Origin) (changes : List Change) :
    let registry := origin.registry.run changes
    let entered := origin.keys ++ changes.flatMap Change.keys
    registry.keys.Nodup ∧ registry.keys = entered.eraseDups ∧
      (∀ key, registry.displayName? key = changes.foldl Change.rename origin.names key) ∧
      registry.size = entered.toFinset.card := by
  intro registry entered
  have hkeys : registry.keys = entered.eraseDups := keys_run origin.keys_registry changes
  refine ⟨?_, hkeys, ?_, size_eq hkeys⟩
  . rw [hkeys]
    exact nodup_eraseDups entered
  . intro key
    change (origin.registry.run changes).displayName? key = _
    rw [displayName?_run, origin.displayName?_registry]

example :
    let other : Registry := ⟨[("b", "B"), ("a", "X"), ("b", "Y")]⟩
    (run {} [.insert "a" "A", .extendMissing other, .insert "a" "Z"]).entries =
      [("a", "Z"), ("b", "B")] := by
  decide

end Registry
end ReportSegments

import ReportSegments.Proofs.Config.FirstEntry
import ReportSegments.Proofs.Expression.RoundTrip

/-!
This module contains what a pass takes the filter of a row from, and that a pass that escapes writes
one clause for each of the values that it finds there.
-/

namespace ReportSegments

open Condition (IsKey)

/--
A text and the values in it, each with the key of its segment. Between the values is the delimiter.
-/
structure Source where
  text : String
  delimiter : String := ""
  values : List (String × String)

namespace Source

/--
The values whose segment has a key.
-/
def used (source : Source) : List (String × String) :=
  source.values.filter fun (key, _) => key ≠ ""

def conditions (source : Source) : List Condition :=
  source.used.map fun (key, value) => ⟨key, .equals, value⟩

def single (key text : String) : Source where
  text
  values := [(key, text)]

end Source

namespace Pass

def keys : Pass → List String
  | byLabel keys _ _ => keys
  | byMapping key _ _ => [key]
  | bySegmentValue key => key.toList
  | presentation _ => []

def source? (pass : Pass) (row : Row) : Option Source :=
  match pass with
  | byLabel [key] _ _ => some (.single key row.label)
  | byLabel keys delimiter _ =>
    some { text := row.label, delimiter, values := keys.zip (Text.splitOn delimiter row.label) }
  | byMapping key stored _ => (stored.find? row.label).map (.single key)
  | bySegmentValue key =>
    key.bind fun key => ((row.metadata.get? Row.valueKey).bind valueText?).map (.single key)
  | presentation _ => none

/--
The passes that escape what they write, with keys that are empty or can be read back.
-/
inductive Escapes : Pass → Prop where
  | single {key : String} (hkey : key = "" ∨ IsKey key) : Escapes (single key true)
  | delimited {keys : List String} (delimiter : String) (hkeys : ∀ key ∈ keys, key = "" ∨ IsKey key) :
    Escapes (byLabel keys delimiter true)
  | byMapping {key : String} (stored : ValueTable) (hkey : key = "" ∨ IsKey key) :
    Escapes (byMapping key stored true)
  | segmentValue {segment : Option Segment}
    (hkey : ∀ found ∈ segment, found.key = "" ∨ IsKey found.key) : Escapes (segmentValue segment)

theorem Escapes.forall_mem_keys {pass : Pass} (h : pass.Escapes) :
    ∀ key ∈ pass.keys, key = "" ∨ IsKey key := by
  cases h with
  | single hkey => exact List.forall_mem_singleton.2 hkey
  | delimited delimiter hkeys => exact hkeys
  | byMapping stored hkey => exact List.forall_mem_singleton.2 hkey
  | segmentValue hkey =>
    intro key hmem
    unfold Pass.segmentValue keys at hmem
    rw [Option.mem_toList, Option.map_eq_some_iff] at hmem
    obtain ⟨segment, hsegment, rfl⟩ := hmem
    exact hkey segment (Option.mem_filter_iff.1 hsegment).1

/--
What is known of the source of a filter.
-/
structure Wrote (source : Source) (keys : List String) (filter : String) : Prop where
  keys : source.values.map Prod.fst = keys
  text : source.delimiter.intercalate (source.values.map Prod.snd) = source.text
  used : source.used ≠ []
  filter : filter = Clause.joinAnd (source.conditions.map Condition.clause)

theorem wrote_single {key : String} (hkey : key ≠ "") (text : String) :
    Wrote (.single key text) [key] (PassConfig.clauseFor true key text) := by
  have hused : (Source.single key text).used = [(key, text)] := by
    simp [Source.used, Source.single, hkey]
  refine ⟨rfl, ?_, ?_, ?_⟩
  . exact String.intercalate_singleton
  . rw [hused]
    exact List.cons_ne_nil _ _
  . unfold Source.conditions
    rw [hused, Clause.joinAnd_of_not_allBlank]
    . exact String.intercalate_singleton.symm
    . intro written hmem
      obtain rfl := List.mem_singleton.1 hmem
      exact allBlank_clauseFor true key text

theorem wrote_delimited {keys : List String} {delimiter label filter : String}
    (hdelimiter : delimiter ≠ "") (h : delimited? keys delimiter true label = some filter) :
    Wrote { text := label, delimiter, values := keys.zip (Text.splitOn delimiter label) } keys
      filter := by
  rw [delimited?_eq] at h
  split at h
  . next hsplit =>
    obtain ⟨hlength, hkeys⟩ := hsplit
    refine ⟨?_, ?_, ?_, ?_⟩
    . exact List.map_fst_zip (by omega)
    . dsimp
      rw [List.map_snd_zip (by omega)]
      exact Text.intercalate_splitOn hdelimiter label
    . intro hnil
      exact (filter_zip_eq_nil_iff hlength).1 hnil hkeys
    . obtain rfl := Option.some.inj h
      rw [Source.conditions, List.map_map, Clause.joinAnd_of_not_allBlank]
      . rfl
      . intro written hmem
        obtain ⟨value, -, rfl⟩ := List.mem_map.1 hmem
        exact allBlank_clauseFor true value.1 value.2
  . contradiction

theorem exists_source_of_label {key delimiter : String} {id : RowId} {row : Row} {filter : String}
    (hwrite : (byLabel [key] delimiter true).write? id row = some filter) :
    ∃ source, (byLabel [key] delimiter true).source? row = some source ∧
      Wrote source [key] filter := by
  change (single key true).write? id row = some filter at hwrite
  rw [write?_single] at hwrite
  split at hwrite
  . next hrow =>
    obtain rfl := Option.some.inj hwrite
    exact ⟨.single key row.label, rfl, wrote_single hrow.2.2 row.label⟩
  . contradiction

/--
The filter that an escaping pass writes comes from a source with a value for each of its keys.
-/
theorem Escapes.exists_source {pass : Pass} (h : pass.Escapes) {id : RowId} {row : Row}
    {filter : String} (hwrite : pass.write? id row = some filter) :
    ∃ source, pass.source? row = some source ∧ Wrote source pass.keys filter := by
  cases h with
  | single => exact exists_source_of_label hwrite
  | @delimited keys delimiter _ =>
    match keys with
    | [key] => exact exists_source_of_label hwrite
    | [] =>
      rw [write?_byLabel (by simp)] at hwrite
      simp at hwrite
    | first :: second :: keys =>
      rw [write?_byLabel (by simp)] at hwrite
      split at hwrite
      . next hrow => exact ⟨_, rfl, wrote_delimited hrow.2.2.2 hwrite⟩
      . contradiction
  | @byMapping key stored _ =>
    rw [write?_byMapping] at hwrite
    obtain ⟨value, hvalue, hwrite⟩ := Option.bind_eq_some_iff.1 hwrite
    split at hwrite
    . next hkey =>
      obtain rfl := Option.some.inj hwrite
      refine ⟨.single key value, ?_, wrote_single hkey.1 value⟩
      rw [source?, hvalue]
      rfl
    . contradiction
  | @segmentValue segment _ =>
    rw [write?_segmentValue] at hwrite
    obtain ⟨found, rfl, hfound⟩ := Option.bind_eq_some_iff.1 hwrite
    obtain ⟨text, htext, htaken⟩ := Option.bind_eq_some_iff.1 hfound
    split at htaken
    . next hrow =>
      obtain rfl := Option.some.inj htaken
      have hsegment : Pass.segmentValue (some found) = bySegmentValue (some found.key) := by
        simp [Pass.segmentValue, Option.filter, hrow]
      rw [hsegment]
      refine ⟨.single found.key text, ?_, wrote_single hrow.2.1 text⟩
      rw [source?, Option.bind_some, htext]
      rfl
    . contradiction

end Pass
end ReportSegments

import ReportSegments.Config.Basic
import ReportSegments.Proofs.Segment.Registry

/-!
This module contains the names that a report shows for segments. The configured entries come first
and stay as they are; of the keys of the dimension those are added that are not configured, each
where it came first and with the name that came last.
-/

namespace ReportSegments

/--
The name that segments give to a key: that of the last one with this key, or else the key itself.
-/
def Segment.nameOf (segments : List Segment) (key : String) : String :=
  ((segments.reverse.find? fun segment => segment.key == key).map displayName).getD key

namespace Registry

theorem filter_unknown_addMissing (registry : Registry) {entry : String × String}
    {rest : List (String × String)} (h : entry.1 ∉ rest.map Prod.fst) :
    rest.filter (fun later => later.1 ∉ (registry.addMissing entry).keys) =
      rest.filter fun later => later.1 ∉ registry.keys := by
  apply List.filter_congr
  intro later hlater
  have hne : later.1 ≠ entry.1 := by
    intro heq
    exact h (heq ▸ List.mem_map_of_mem hlater)
  rw [keys_addMissing]
  split
  . rfl
  . simp [hne]

theorem entries_addMissing (registry : Registry) (entry : String × String) :
    (registry.addMissing entry).entries =
      registry.entries ++ [entry].filter fun entry => entry.1 ∉ registry.keys := by
  unfold addMissing
  cases hname : registry.displayName? entry.1 with
  | some name =>
    have hknown : entry.1 ∈ registry.keys := by
      by_contra hkey
      rw [displayName?_eq_none_iff.2 hkey] at hname
      contradiction
    simp [hknown]
  | none => simp [displayName?_eq_none_iff.1 hname]

/--
Of another registry with different keys, those entries are added whose keys are not known.
-/
theorem entries_extendMissing (registry : Registry) {other : Registry} (h : other.keys.Nodup) :
    (registry.extendMissing other).entries =
      registry.entries ++ other.entries.filter fun entry => entry.1 ∉ registry.keys := by
  rw [extendMissing_eq]
  unfold keys at h
  generalize other.entries = entries at h
  induction entries generalizing registry with
  | nil => simp
  | cons entry rest ih =>
    rw [List.map_cons, List.nodup_cons] at h
    rw [List.foldl_cons, ih _ h.2, entries_addMissing, filter_unknown_addMissing registry h.1,
      List.append_assoc, ← List.filter_append]
    rfl

theorem resolve_extendMissing (registry other : Registry) (key : String) :
    (registry.extendMissing other).resolve key =
      (registry.displayName? key).getD (other.resolve key) := by
  unfold resolve
  rw [displayName?_extendMissing]
  cases registry.displayName? key <;> rfl

theorem entries_eq_of_nodup {registry : Registry} (h : registry.keys.Nodup) :
    registry.entries = registry.keys.map fun key => (key, registry.resolve key) := by
  unfold keys
  rw [List.map_map, List.map_congr_left (g := id), List.map_id]
  intro entry hentry
  have hname : registry.displayName? entry.1 = some entry.2 := (Members.mem_iff_lookup h).1 hentry
  unfold resolve
  rw [Function.comp_apply, hname]
  rfl

theorem resolve_ofSegments (segments : List Segment) (key : String) :
    (ofSegments segments).resolve key = Segment.nameOf segments key := by
  unfold resolve Segment.nameOf
  rw [displayName?_ofSegments]

theorem entries_ofSegments (segments : List Segment) :
    (ofSegments segments).entries =
      (segments.map Segment.key).eraseDups.map fun key => (key, Segment.nameOf segments key) := by
  have hnodup : (ofSegments segments).keys.Nodup := by
    rw [keys_ofSegments]
    exact nodup_eraseDups _
  rw [entries_eq_of_nodup hnodup, keys_ofSegments]
  simp only [resolve_ofSegments]

end Registry

namespace Config

theorem registryFor_eq (config : Config) (dimension : Option Dimension) :
    config.registryFor dimension =
      config.segments.extendMissing (.ofSegments (dimension.elim [] Dimension.segments)) := by
  cases dimension <;> rfl

/--
The registry for a report holds the configured entries and then, in the order in which they come
first, the other keys of its dimension with the names that come last. So a key has its first
configured name, or else its last name in the dimension, or else no other name than itself; and a
key that is configured keeps its name.
-/
theorem names_registryFor (config : Config) (dimension : Option Dimension) :
    let segments := dimension.elim [] Dimension.segments
    let added := (segments.map Segment.key).eraseDups.filter (· ∉ config.segments.keys)
    let registry := config.registryFor dimension
    registry.entries =
        config.segments.entries ++ added.map (fun key => (key, Segment.nameOf segments key)) ∧
      added.Nodup ∧
      (∀ key, registry.resolve key =
        (config.segments.displayName? key).getD (Segment.nameOf segments key)) ∧
      ∀ key, key ∈ config.segments.keys →
        registry.displayName? key = config.segments.displayName? key := by
  intro segments added registry
  have hregistry : registry = config.segments.extendMissing (.ofSegments segments) :=
    registryFor_eq config dimension
  have hkeys := Registry.keys_ofSegments segments
  have hnodup := nodup_eraseDups (segments.map Segment.key)
  refine ⟨?_, hnodup.filter _, ?_, ?_⟩
  . rw [hregistry, Registry.entries_extendMissing _ (hkeys ▸ hnodup), Registry.entries_ofSegments,
      List.filter_map]
    rfl
  . intro key
    rw [hregistry, Registry.resolve_extendMissing, Registry.resolve_ofSegments]
  . intro key hkey
    rw [hregistry, Registry.displayName?_extendMissing]
    cases hname : config.segments.displayName? key with
    | some name => rfl
    | none => exact absurd hkey (Registry.displayName?_eq_none_iff.1 hname)

theorem names_registryFor_repeated :
    let config : Config := { segments := ⟨[("a", "A"), ("b", "B"), ("a", "Other")]⟩ }
    let segments : List Segment := [
      { key := "d", name := some "First" }, { key := "a", name := some "X" }, { key := "c" },
      { key := "d", name := some "Last" }, { key := "c", name := some "C" }, { key := "c" }]
    let registry := config.registryFor (some { segments })
    registry.entries = config.segments.entries ++ [("d", "Last"), ("c", "c")] ∧
      registry.resolve "a" = "A" ∧ registry.resolve "d" = "Last" ∧ registry.resolve "e" = "e" ∧
      "b" ∈ config.segments.keys ∧
      registry.displayName? "b" = config.segments.displayName? "b" := by
  intro config segments registry
  obtain ⟨hentries, -, hresolve, hkept⟩ := names_registryFor config (some { segments })
  have hb : "b" ∈ config.segments.keys := by decide
  exact ⟨hentries, hresolve "a", hresolve "d", hresolve "e", hb, hkept "b" hb⟩

end Config
end ReportSegments

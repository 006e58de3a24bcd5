import ReportSegments.Display.Tree
import ReportSegments.Proofs.Report.Path

/-!
This module contains hierarchies of labels and their two written forms: nested, where what is below a
node is the sub-table of its row, and flat, where each row has its depth as its level. In the flat
form the node above another one is the nearest one in front of it that is one level higher.
-/

namespace ReportSegments
namespace Display

/--
A label with the nodes below it.
-/
inductive Node where
  | mk (label : String) (below : List Node)

/--
The nodes on the way from the top down to a node, each with its place among its siblings.
-/
abbrev Way := List (Nat × String)

namespace Way

def path (way : Way) : List Nat :=
  way.map Prod.fst

def labels (way : Way) : List String :=
  way.map Prod.snd

end Way

namespace Node

mutual

/--
The ways to all nodes, with a node in front of those below it. The first node has place `i`.
-/
def ways (i : Nat) : List Node → List Way
  | [] => []
  | node :: nodes => waysInto i node ++ ways (i + 1) nodes

def waysInto (i : Nat) : Node → List Way
  | ⟨label, below⟩ => [(i, label)] :: (ways 0 below).map ((i, label) :: ·)

end

mutual

def nestedRows : List Node → List ReportSegments.Row
  | [] => []
  | node :: nodes => nestedRow node :: nestedRows nodes

def nestedRow : Node → ReportSegments.Row
  | ⟨label, below⟩ =>
    { label, subtable := if below.isEmpty then none else some { rows := nestedRows below } }

end

mutual

def flatRows (depth : Nat) : List Node → List Row
  | [] => []
  | node :: nodes => flatRowsInto depth node ++ flatRows depth nodes

def flatRowsInto (depth : Nat) : Node → List Row
  | ⟨label, below⟩ => { label, level := some (.ofNat depth) } :: flatRows (depth + 1) below

end

theorem nodes_induction {motive : List Node → Prop} (nil : motive [])
    (cons : ∀ label below nodes, motive below → motive nodes → motive (⟨label, below⟩ :: nodes)) :
    ∀ nodes, motive nodes
  | [] => nil
  | ⟨label, below⟩ :: nodes =>
    cons label below nodes (nodes_induction nil cons below) (nodes_induction nil cons nodes)

theorem mem_ways_cons {i : Nat} {label : String} {below nodes : List Node} {way : Way} :
    way ∈ ways i (⟨label, below⟩ :: nodes) ↔
      way = [(i, label)] ∨ (∃ rest ∈ ways 0 below, (i, label) :: rest = way) ∨
        way ∈ ways (i + 1) nodes := by
  rw [ways, waysInto, List.mem_append, List.mem_cons, List.mem_map, or_assoc]

theorem ne_nil_of_mem_ways {i : Nat} {nodes : List Node} {way : Way} (h : way ∈ ways i nodes) :
    way ≠ [] := by
  induction nodes using nodes_induction generalizing i with
  | nil => simp [ways] at h
  | cons label below nodes _ ih =>
    rw [mem_ways_cons] at h
    rcases h with rfl | ⟨_, _, rfl⟩ | h
    . simp
    . simp
    . exact ih h

/--
Whether each way is that of a node at the top, or else the nearest way in front of it with one node
less is the way to the node above.
-/
def InOrder (ways : List Way) : Prop :=
  ∀ (before : List Way) (way : Way) (after : List Way), ways = before ++ way :: after →
    (∃ node, way = [node]) ∨
      ∃ (front : List Way) (upper : Way) (between : List Way) (node : Nat × String),
        before = front ++ upper :: between ∧ upper ≠ [] ∧ way = upper ++ [node] ∧
        ∀ other ∈ between, other.length ≠ upper.length

theorem inOrder_nil : InOrder [] := by
  intro before way after h
  simp at h

theorem InOrder.append {ways ways' : List Way} (h : InOrder ways) (h' : InOrder ways') :
    InOrder (ways ++ ways') := by
  intro before way after hsplit
  rw [List.append_eq_append_iff] at hsplit
  rcases hsplit with ⟨middle, rfl, hmiddle⟩ | ⟨middle, rfl, hmiddle⟩
  -- The way is in the second list, and so is the one above it.
  . cases h' middle way after hmiddle with
    | inl htop => exact .inl htop
    | inr hbelow =>
      obtain ⟨front, upper, between, node, rfl, hrest⟩ := hbelow
      refine .inr ⟨ways ++ front, upper, between, node, ?_, hrest⟩
      rw [List.append_assoc]
  . cases middle with
    | nil =>
      have := h' [] way after (by simpa using hmiddle.symm)
      cases this with
      | inl htop => exact .inl htop
      | inr hbelow =>
        obtain ⟨front, upper, between, node, hnil, -⟩ := hbelow
        simp at hnil
    | cons first middle =>
      rw [List.cons_append, List.cons.injEq] at hmiddle
      obtain ⟨rfl, -⟩ := hmiddle
      exact h before way middle rfl

theorem InOrder.below {ways : List Way} (h : InOrder ways) (hne : ∀ way ∈ ways, way ≠ [])
    (top : Nat × String) : InOrder ([top] :: ways.map (top :: ·)) := by
  intro before way after hsplit
  cases before with
  | nil =>
    rw [List.nil_append, List.cons.injEq] at hsplit
    exact .inl ⟨top, hsplit.1.symm⟩
  | cons first before =>
    rw [List.cons_append, List.cons.injEq] at hsplit
    obtain ⟨rfl, hsplit⟩ := hsplit
    obtain ⟨before, rest, rfl, rfl, hrest⟩ := List.map_eq_append_iff.1 hsplit
    obtain ⟨way, after, rfl, rfl, rfl⟩ := List.map_eq_cons_iff.1 hrest
    apply Or.inr
    cases h before way after rfl with
    | inl htop =>
      obtain ⟨node, rfl⟩ := htop
      refine ⟨[], [top], before.map (top :: ·), node, rfl, by simp, rfl, ?_⟩
      rw [List.forall_mem_map]
      intro other hother
      simpa using hne other (List.mem_append_left _ hother)
    | inr hbelow =>
      obtain ⟨front, upper, between, node, rfl, -, rfl, hother⟩ := hbelow
      refine ⟨[top] :: front.map (top :: ·), top :: upper, between.map (top :: ·), node, ?_, ?_, ?_, ?_⟩
      . simp
      . simp
      . simp
      . rw [List.forall_mem_map]
        intro other hmem
        simp [hother other hmem]

theorem inOrder_ways (i : Nat) (nodes : List Node) : InOrder (ways i nodes) := by
  induction nodes using nodes_induction generalizing i with
  | nil => exact inOrder_nil
  | cons label below nodes ihbelow ih =>
    apply InOrder.append
    . apply (ihbelow 0).below
      exact fun way => ne_nil_of_mem_ways
    . exact ih (i + 1)

/--
Induction along the ways, each behind the one to the node above.
-/
theorem InOrder.induction {ways : List Way} (h : InOrder ways) {motive : List Way → Way → Prop}
    (top : ∀ (before : List Way) (node : Nat × String) (after : List Way),
      ways = before ++ [node] :: after → motive before [node])
    (step : ∀ (front : List Way) (upper : Way) (between : List Way) (node : Nat × String)
      (after : List Way), ways = front ++ upper :: between ++ (upper ++ [node]) :: after → upper ≠ [] →
      (∀ other ∈ between, other.length ≠ upper.length) → motive front upper →
      motive (front ++ upper :: between) (upper ++ [node]))
    (before : List Way) (way : Way) (after : List Way) (hways : ways = before ++ way :: after) :
    motive before way := by
  induction hlength : before.length using Nat.strongRecOn generalizing before way after with
  | _ n ih =>
    cases h before way after hways with
    | inl htop =>
      obtain ⟨node, rfl⟩ := htop
      exact top before node after hways
    | inr hbelow =>
      obtain ⟨front, upper, between, node, rfl, hne, rfl, hother⟩ := hbelow
      apply step front upper between node after hways hne hother
      apply ih front.length _ front upper (between ++ (upper ++ [node]) :: after) _ rfl
      . rw [← hlength, List.length_append, List.length_cons]
        omega
      . rw [hways, List.append_assoc]
        rfl

/--
The row of a node in the flat form, if the nodes at the top have level `depth`.
-/
def flatRow (depth : Nat) (way : Way) : Row where
  label := way.getLast?.elim "" Prod.snd
  level := some (.ofNat (depth + way.length - 1))

theorem flatRow_cons (depth : Nat) (node : Nat × String) {way : Way} (hne : way ≠ []) :
    flatRow depth (node :: way) = flatRow (depth + 1) way := by
  unfold flatRow
  rw [List.getLast?_cons_of_ne_nil hne, List.length_cons]
  congr 3
  omega

theorem flatRows_eq (depth i : Nat) (nodes : List Node) :
    flatRows depth nodes = (ways i nodes).map (flatRow depth) := by
  induction nodes using nodes_induction generalizing depth i with
  | nil => rfl
  | cons label below nodes ihbelow ih =>
    have hbelow : ((ways 0 below).map ((i, label) :: ·)).map (flatRow depth) =
        (ways 0 below).map (flatRow (depth + 1)) := by
      rw [List.map_map]
      apply List.map_congr_left
      intro way hway
      exact flatRow_cons depth (i, label) (ne_nil_of_mem_ways hway)
    rw [flatRows, flatRowsInto, ways, waysInto, List.map_append, List.map_cons, hbelow,
      ← ihbelow, ← ih]
    rfl

/--
The row of a node in the nested form.
-/
theorem exists_rowAt? (nodes : List Node) (table : ReportSegments.Table)
    (front : List ReportSegments.Row) (htable : table.rows = front ++ nestedRows nodes) {way : Way}
    (h : way ∈ ways front.length nodes) :
    ∃ row, table.rowAt? way.path = some row ∧ row.level = none ∧
      ∃ upper place, way = upper ++ [(place, row.label)] := by
  induction nodes using nodes_induction generalizing table front way with
  | nil => simp [ways] at h
  | cons label below nodes ihbelow ih =>
    rw [nestedRows] at htable
    have hfirst : table.rows[front.length]? = some (nestedRow ⟨label, below⟩) := by
      rw [htable, List.getElem?_append_right (Nat.le_refl _), Nat.sub_self]
      rfl
    rw [mem_ways_cons] at h
    rcases h with rfl | ⟨rest, hrest, rfl⟩ | h
    . exact ⟨nestedRow ⟨label, below⟩, hfirst, rfl, [], front.length, rfl⟩
    . have hbelow : below.isEmpty = false := by
        cases below with
        | nil => simp [ways] at hrest
        | cons node below => rfl
      obtain ⟨row, hrow, hlevel, upper, place, rfl⟩ :=
        ihbelow { rows := nestedRows below } [] rfl hrest
      refine ⟨row, ?_, hlevel, (front.length, label) :: upper, place, rfl⟩
      have hpath : Way.path (upper ++ [(place, row.label)]) ≠ [] := by
        simp [Way.path]
      rw [Way.path, List.map_cons, ← Way.path, Rows.rowAt?_cons table front.length hpath, hfirst]
      simp only [Option.bind_some, nestedRow, hbelow]
      exact hrow
    . apply ih table (front ++ [nestedRow ⟨label, below⟩])
      . rw [htable, List.append_assoc]
        rfl
      . rw [List.length_append]
        exact h

end Node
end Display
end ReportSegments

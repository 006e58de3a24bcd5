import ReportSegments.Proofs.Report.Openings

/-!
This module contains the walk with a visitor that may change the tables to which it comes. A visitor
that leaves the nesting alone comes to each table of the walk once, in the order of the walk.
-/

namespace ReportSegments
namespace Rows

/--
What is done at each table of a walk: it may change the table and a state, but not where tables are
open.
-/
structure Visitor (σ : Type) where
  visit : σ → Table → σ × Table
  openings_visit : ∀ state table, (visit state table).2.openings = table.openings

theorem Visitor.length_walkRows_lt (visitor : Visitor σ) (state : σ) (table : Table) :
    (walkRows (visitor.visit state table).2.rows).length < table.walk.length := by
  have hlength := congrArg List.length (visitor.openings_visit state table)
  rw [length_openings, length_openings] at hlength
  generalize (visitor.visit state table).2 = visited at hlength
  rcases visited with ⟨rows, summary⟩
  rw [← hlength, walk, List.length_cons]
  exact Nat.lt_succ_self _

theorem Visitor.openingsRows_visit (visitor : Visitor σ) (state : σ) (table : Table) :
    openingsRows 0 (visitor.visit state table).2.rows = openingsRows 0 table.rows := by
  have hopenings := visitor.openings_visit state table
  rw [openings_eq, openings_eq] at hopenings
  exact List.tail_eq_of_cons_eq hopenings

mutual

/--
Walks over a table: the visitor comes to the table, and then to what is below the rows that it has
left.
-/
def visitAll (visitor : Visitor σ) (state : σ) (table : Table) : σ × Table :=
  let visited := visitor.visit state table
  let below := visitRows visitor visited.1 visited.2.rows
  (below.1, { visited.2 with rows := below.2 })
termination_by (table.walk.length, 0)
decreasing_by
  exact Prod.Lex.left _ _ (visitor.length_walkRows_lt state table)

def visitRows (visitor : Visitor σ) (state : σ) : List Row → σ × List Row
  | [] => (state, [])
  | row :: rows =>
    let visited := visitRow visitor state row
    let rest := visitRows visitor visited.1 rows
    (rest.1, visited.2 :: rest.2)
termination_by rows => ((walkRows rows).length, rows.length + 1)
decreasing_by
  all_goals
    rw [walkRows, List.length_append, Prod.lex_def, List.length_cons]
    omega

def visitRow (visitor : Visitor σ) (state : σ) : Row → σ × Row
  | ⟨label, columns, metadata, none, level⟩ => (state, ⟨label, columns, metadata, none, level⟩)
  | ⟨label, columns, metadata, some table, level⟩ =>
    let visited := visitAll visitor state table
    (visited.1, ⟨label, columns, metadata, some visited.2, level⟩)
termination_by row => ((walkRow row).length, 1)
decreasing_by
  exact Prod.Lex.right _ Nat.one_pos

end

/--
Takes the visitor to the table at a path, and to no other one.
-/
def visitAt? (visitor : Visitor σ) (state : σ) (table : Table) : List Nat → Option (σ × Table)
  | [] => some (visitor.visit state table)
  | i :: path => do
    let row ← table.rows[i]?
    let subtable ← row.subtable
    let visited ← visitAt? visitor state subtable path
    let rows := table.rows.set i { row with subtable := some visited.2 }
    some (visited.1, { table with rows })

/--
Takes the visitor to the tables at the given paths, one after the other.
-/
def visitEach? (visitor : Visitor σ) (done : σ × Table) (paths : List (List Nat)) :
    Option (σ × Table) :=
  paths.foldlM (fun done path => visitAt? visitor done.1 done.2 path) done

variable {visitor : Visitor σ}

theorem visitEach?_cons (visitor : Visitor σ) (done : σ × Table) (path : List Nat)
    (paths : List (List Nat)) :
    visitEach? visitor done (path :: paths) =
      (visitAt? visitor done.1 done.2 path).bind (visitEach? visitor · paths) :=
  List.foldlM_cons

theorem visitEach?_append (visitor : Visitor σ) (done : σ × Table)
    (paths paths' : List (List Nat)) :
    visitEach? visitor done (paths ++ paths') =
      (visitEach? visitor done paths).bind (visitEach? visitor · paths') :=
  List.foldlM_append

/--
A table with a given sub-table below the row between others.
-/
def hold (front : List Row) (row : Row) (rest : List Row) (summary : Option Row)
    (done : σ × Table) : σ × Table :=
  (done.1, ⟨front ++ { row with subtable := some done.2 } :: rest, summary⟩)

theorem visitAt?_hold (visitor : Visitor σ) (front : List Row) (row : Row) (rest : List Row)
    (summary : Option Row) (done : σ × Table) (path : List Nat) :
    visitAt? visitor (hold front row rest summary done).1 (hold front row rest summary done).2
        (front.length :: path) =
      (visitAt? visitor done.1 done.2 path).map (hold front row rest summary) := by
  have hrow : (front ++ { row with subtable := some done.2 } :: rest)[front.length]? =
      some { row with subtable := some done.2 } := by
    simp
  unfold hold
  rw [visitAt?, Option.bind_eq_bind, hrow, Option.bind_some, Option.map_eq_bind]
  simp only [Option.bind_eq_bind, Option.bind_some, List.set_append_right _ _ (Nat.le_refl _),
    Nat.sub_self, List.set_cons_zero]
  rfl

theorem visitEach?_hold (visitor : Visitor σ) (front : List Row) (row : Row) (rest : List Row)
    (summary : Option Row) (done : σ × Table) (paths : List (List Nat)) :
    visitEach? visitor (hold front row rest summary done) (paths.map (front.length :: ·)) =
      (visitEach? visitor done paths).map (hold front row rest summary) := by
  induction paths generalizing done with
  | nil => rfl
  | cons path paths ih =>
    rw [List.map_cons, visitEach?_cons, visitEach?_cons, visitAt?_hold]
    cases visitAt? visitor done.1 done.2 path with
    | none => rfl
    | some visited => exact ih visited

theorem visitEach?_openingsRow {row : Row}
    (ih : ∀ subtable, row.subtable = some subtable → ∀ state,
      visitEach? visitor (state, subtable) subtable.openings =
        some (visitAll visitor state subtable))
    (state : σ) (front rest : List Row) (summary : Option Row) :
    visitEach? visitor (state, ⟨front ++ row :: rest, summary⟩)
        ((openingsRow row).map (front.length :: ·)) =
      some ((visitRow visitor state row).1,
        ⟨front ++ (visitRow visitor state row).2 :: rest, summary⟩) := by
  rcases row with ⟨label, columns, metadata, _ | subtable, level⟩
  . rw [visitRow]
    rfl
  . have hhold := visitEach?_hold visitor front ⟨label, columns, metadata, some subtable, level⟩
      rest summary (state, subtable) subtable.openings
    rw [ih subtable rfl state, Option.map_some] at hhold
    rw [visitRow]
    exact hhold

theorem visitEach?_openingsRows {rows : List Row}
    (ih : ∀ row ∈ rows, ∀ subtable, row.subtable = some subtable → ∀ state,
      visitEach? visitor (state, subtable) subtable.openings =
        some (visitAll visitor state subtable))
    (state : σ) (front : List Row) (summary : Option Row) :
    visitEach? visitor (state, ⟨front ++ rows, summary⟩) (openingsRows front.length rows) =
      some ((visitRows visitor state rows).1,
        ⟨front ++ (visitRows visitor state rows).2, summary⟩) := by
  induction rows generalizing state front with
  | nil =>
    rw [visitRows]
    rfl
  | cons row rows ihrows =>
    rw [List.forall_mem_cons] at ih
    have hrest := ihrows ih.2 (visitRow visitor state row).1
      (front ++ [(visitRow visitor state row).2])
    rw [List.length_append, List.length_singleton, List.append_assoc, List.append_assoc] at hrest
    rw [openingsRows, visitEach?_append, visitEach?_openingsRow ih.1, Option.bind_some, visitRows]
    exact hrest

theorem length_walk_le {rows : List Row} {row : Row} {subtable : Table} (hrow : row ∈ rows)
    (hsub : row.subtable = some subtable) : subtable.walk.length ≤ (walkRows rows).length := by
  have hbelow : walkRow row = subtable.walk := by
    rw [walkRow_eq, hsub, Option.elim_some]
  rw [walkRows_eq, ← hbelow]
  exact (List.sublist_flatten_of_mem (List.mem_map_of_mem hrow)).length_le

/--
The walk comes to the tables that are open, in their order, each as the walk has left it until then.
-/
theorem visitEach?_openings (visitor : Visitor σ) (state : σ) (table : Table) :
    visitEach? visitor (state, table) table.openings = some (visitAll visitor state table) := by
  have ih (row : Row) (hrow : row ∈ (visitor.visit state table).2.rows) (subtable : Table)
      (hsub : row.subtable = some subtable) (state : σ) :=
    visitEach?_openings visitor state subtable
  have hbelow := visitEach?_openingsRows ih (visitor.visit state table).1 []
    (visitor.visit state table).2.summary
  rw [List.length_nil, visitor.openingsRows_visit] at hbelow
  rw [openings_eq, visitEach?_cons, visitAt?, Option.bind_some, visitAll]
  exact hbelow
termination_by table.walk.length
decreasing_by
  exact Nat.lt_of_le_of_lt (length_walk_le hrow hsub) (visitor.length_walkRows_lt _ table)

end Rows
end ReportSegments

import ReportSegments.Pass.Basic

/-!
This module contains pipelines of passes. Each pass is through with the whole table before the next
one starts; one that cannot be applied is recorded and does not stop the others.
-/

namespace ReportSegments

/--
What a pass of a run did.
-/
structure PassReport where
  pass : String
  annotated : Nat := 0
  error : Option ConfigurationError := none
deriving DecidableEq, Repr

namespace Pass

def run (pass : Pass) (table : Table) : Table × PassReport :=
  match pass.apply table with
  | (.ok annotated, table) => (table, { pass := pass.name, annotated })
  | (.error error, table) => (table, { pass := pass.name, error := some error })

end Pass

abbrev Pipeline := List Pass

namespace Pipeline

def run : Pipeline → Table → Table × List PassReport
  | [], table => (table, [])
  | pass :: passes, table =>
    let (table, report) := pass.run table
    let (table, reports) := run passes table
    (table, report :: reports)

def total : List PassReport → Nat
  | [] => 0
  | report :: reports => report.annotated + total reports

def errors (reports : List PassReport) : List ConfigurationError :=
  reports.filterMap PassReport.error

end Pipeline
end ReportSegments

import Decouple.Analysis.Basic
import Decouple.Cleaning
import Decouple.Json.Value

/-!
# Findings as JSON

How issues, dependencies, analyses and counters are written as JSON values.  Members are in the
order in which the fields are read: the score first, the platform last.
-/

namespace Decouple

/-- An issue as a JSON value. -/
def Issue.toJson (i : Issue) : Json := .object [
  ("id", .string i.id), ("severity", .string i.severity.name), ("file_path", .string i.path),
  ("description", .string i.description), ("rule", .string i.rule),
  ("platform", .ofText? i.platform),
  ("line", (i.line.map fun n => Json.int n).getD .null),
  ("suggestion", .ofText? i.suggestion)]

/-- A dependency as a JSON value. -/
def DependencyFinding.toJson (d : DependencyFinding) : Json := .object [
  ("name", .string d.name), ("declared_version", .ofText? d.version),
  ("status", .string d.verdict.name), ("manifest_path", .string d.manifest)]

namespace Analysis

/-- The members of an analysis. -/
def members (a : Analysis) : List (Text × Json) := [
  ("score", .int a.score), ("issues", .array (a.issues.map Issue.toJson)),
  ("dependencies", .array (a.dependencies.map DependencyFinding.toJson)),
  ("files_to_remove", .ofTexts a.filesToRemove), ("proprietary_cdns", .ofTexts a.addresses),
  ("recommendations", .ofTexts a.recommendations), ("detected_platform", .ofText? a.platform)]

/-- An analysis as a JSON value. -/
def toJson (a : Analysis) : Json := .object a.members

/-- How many issues of each severity there are. -/
def summary (a : Analysis) : Json := .object [
  ("info", .int (a.count .info)), ("warning", .int (a.count .warning)),
  ("critical", .int (a.count .critical))]

end Analysis

/-- Counters as a JSON value. -/
def CleaningStats.toJson (s : CleaningStats) : Json :=
  .object (s.toList.map fun (name, n) => (name, .int n))

end Decouple

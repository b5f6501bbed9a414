import Decouple.Cleaning
import Decouple.Moment
import Decouple.Polyfill

/-!
# The report of a run

A summary of the analysis and of the cleaning, written for people and packed with the project.
-/

namespace Decouple

/-- What a report tells. -/
structure Report where
  projectName : Text
  analysis : Analysis
  stats : CleaningStats
  scoreAfter : Int
  removedDependencies : List Text := []
  removedPaths : List Text := []
  skipped : List Text := []
  polyfills : List Polyfill := []
  generatedAt : Moment

namespace Report

/-- A text as code. -/
def code (t : Text) : Text := "`" ++ t ++ "`"

/-- The lines about the score. -/
def scoreLines (r : Report) : List Text :=
  ["- Before: " ++ Text.ofInt r.analysis.score ++ "/100",
    "- After: " ++ Text.ofInt r.scoreAfter ++ "/100"] ++
  match r.analysis.platform.filter (!·.isEmpty) with
  | some platform => ["- Detected platform: " ++ platform]
  | none => []

/-- A row of the table of counters. -/
def counterRow (name : Text) (n : Int) : Text := "| " ++ name ++ " | " ++ Text.ofInt n ++ " |"

/-- The table of counters. -/
def counterLines (s : CleaningStats) : List Text := [
  "| Counter | Value |", "|---|---|",
  counterRow "Files removed" s.filesRemoved,
  counterRow "Files changed locally" s.changedLocally,
  counterRow "Files changed by AI" s.changedByAssistant,
  counterRow "Dependencies removed" s.dependenciesRemoved,
  counterRow "Polyfills generated" s.polyfillsGenerated,
  counterRow "CDN URLs replaced" s.addressesReplaced]

/-- A section with a list; without items there is no section. -/
def listSection (title : Text) (items : List Text) : List Text :=
  let heading : Text := "## " ++ title
  let entry (item : Text) : Text := "- " ++ item
  if items.isEmpty then [] else "" :: heading :: "" :: items.map entry

/-- The sections with lists. -/
def listSections (r : Report) : List Text :=
  listSection "Removed dependencies" (r.removedDependencies.map code) ++
    listSection "Removed files" (r.removedPaths.map code) ++
    listSection "Generated polyfills"
      (r.polyfills.map fun p => code p.path ++ " (" ++ p.symbol ++ ")") ++
    listSection "Files that could not be retrieved" (r.skipped.map code) ++
    listSection "Recommendations" r.analysis.recommendations

/-- How to run the project. -/
def deployLines : List Text := [
  "", "## Deploy", "", "```bash", "docker build -t app .", "docker run -p 8080:80 app", "```", ""]

/-- The lines above the score. -/
def headLines (r : Report) : List Text :=
  ["# Liberation report: " ++ r.projectName, "", "Generated " ++ r.generatedAt.short ++ ".", "",
    "## Portability score", ""]

/-- The lines about the cleaning. -/
def cleaningLines (r : Report) : List Text :=
  "" :: "## Cleaning" :: "" :: counterLines r.stats

/-- The lines of a report. -/
def lines (r : Report) : List Text :=
  r.headLines ++ r.scoreLines ++ r.cleaningLines ++ r.listSections ++ deployLines

/-- The report as a text. -/
def toText (r : Report) : Text := Text.join "\n" r.lines

end Report

end Decouple

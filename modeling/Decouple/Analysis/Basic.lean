import Decouple.Analysis.File
import Decouple.Failure

/-!
# Analysis of a project

The analysis of a snapshot puts together what its files show, in the order of their paths, and
scores the project: each issue and each file to remove takes something off 100.
-/

namespace Decouple

/-- The findings on a project. -/
structure Analysis where
  score : Int
  issues : List Issue := []
  dependencies : List DependencyFinding := []
  filesToRemove : List Text := []
  addresses : List Text := []
  recommendations : List Text := []
  platform : Option Text := none

/-- Why a snapshot cannot be analysed. -/
inductive AnalysisError where
  /-- Something other than a snapshot was handed over. -/
  | notASnapshot (kind : Text)
  /-- A path is empty or absolute. -/
  | invalidPath (path : Text)
  /-- A file cannot be analysed. -/
  | file (f : FileFault)
  deriving DecidableEq

namespace Analysis

/-! ## The score -/

/-- What an issue of a severity takes off. -/
def weight (w : Weights) : Severity → Int
  | .critical => w.critical
  | .warning => w.warning
  | .info => w.info

/-- What issues take off together. -/
def penaltyOf (w : Weights) : List Issue → Int
  | [] => 0
  | i :: rest => weight w i.severity + penaltyOf w rest

/-- The score of issues and files to remove. -/
def scoreOf (w : Weights) (issues : List Issue) (removed : Nat) : Int :=
  let penalty := penaltyOf w issues + w.removedFile * removed
  max 0 (100 - penalty)

/-! ## Recommendations -/

/-- The order of recommendations: severe issues first, then by file and line. -/
def comesBefore (a b : Issue) : Bool :=
  if a.severity.rank ≠ b.severity.rank then b.severity.rank ≤ a.severity.rank
  else if a.path ≠ b.path then Text.le a.path b.path
  else a.line.getD 0 ≤ b.line.getD 0

/-- The first distinct suggestions in that order, as many as are wanted and at least one. -/
def recommendationsOf (most : Int) (issues : List Issue) : List Text :=
  let suggestions := (Sorting.sort comesBefore issues).filterMap (·.suggestion)
  (Text.distinct (suggestions.filter (!·.isEmpty))).take (max 1 most.toNat)

/-! ## The platform -/

/-- Whether one name is met more often than another, or as often and comes first. -/
def moreFrequent (names : List Text) (a b : Text) : Bool :=
  if names.count a ≠ names.count b then names.count b < names.count a else Text.le a b

/-- The most frequent name, of several the first. -/
def mostFrequent (names : List Text) : Option Text :=
  (Sorting.sort (moreFrequent names) (Text.distinct names)).head?

/-- The platform that issues point to, or else that files to remove belong to. -/
def platformOf (issues : List Issue) (owners : List Text) : Option Text :=
  let named := (issues.filterMap (·.platform)).filter (!·.isEmpty)
  if named.isEmpty then mostFrequent owners else mostFrequent named

/-! ## Putting files together -/

/-- Whether a path may stand in a snapshot. -/
def validPath (path : Text) : Bool := !path.isEmpty && !Text.startsWith path "/"

/-- The analyses of some files beside their paths. -/
def ofFiles (s : Settings) : List File → Except AnalysisError (List (Text × FileAnalysis))
  | [] => .ok []
  | f :: rest =>
    if !validPath f.path then .error (.invalidPath f.path)
    else
      match FileAnalysis.ofFile s f with
      | .error f => .error (.file f)
      | .ok a => (ofFiles s rest).map ((f.path, a) :: ·)

/-- The analysis that analyses of files amount to. -/
def combine (s : Settings) (files : List (Text × FileAnalysis)) : Analysis :=
  let issues := Issue.number (files.flatMap (·.2.signals))
  let removed := files.filter fun f => f.2.removedFor.isSome
  { score := scoreOf s.weights issues removed.length
    issues
    dependencies := files.flatMap (·.2.dependencies)
    filesToRemove := removed.map Prod.fst
    addresses := Text.distinct (files.flatMap (·.2.addresses))
    recommendations := recommendationsOf s.maxRecommendations issues
    platform := platformOf issues (files.filterMap fun f => f.2.removedFor.map (·.name)) }

/-- The analysis of a snapshot. -/
def ofSnapshot (s : Settings) (snapshot : Snapshot) : Except AnalysisError Analysis :=
  (ofFiles s snapshot.sorted).map (combine s)

/-- The number of issues of a severity. -/
def count (a : Analysis) (severity : Severity) : Nat :=
  a.issues.countP fun i => i.severity = severity

end Analysis

namespace AnalysisError

/-- The failure that a malformed snapshot is. -/
def failure? : AnalysisError → Option Failure
  | notASnapshot kind => some
    { kind := .analysis, message := "Expected a ProjectSnapshot, got " ++ kind }
  | invalidPath path => some
    { kind := .analysis, message := "Invalid snapshot path: " ++ path.quoted }
  | file _ => none

/-- An error in words. -/
def message (e : AnalysisError) : Text :=
  match e, e.failure? with
  | _, some f => f.report
  | .file f, none => f.message
  | _, none => []

end AnalysisError

end Decouple

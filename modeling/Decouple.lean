import Decouple.Main
import Decouple.Moment.Iso
import Decouple.Pattern.Reach
import Decouple.Proofs.Asking
import Decouple.Proofs.FileByFile
import Decouple.Proofs.Rescoring
import Decouple.Proofs.Agreement.Findings
import Decouple.Proofs.Rewriting.SecondPass
import Decouple.Proofs.Snapshots
import Decouple.Proofs.Traversal
import Decouple.Proofs.Utf8
import Decouple.Text.Utf8.Lemmas
import Decouple.Web.Basic
import Decouple.Proofs.Scoring
import Decouple.Proofs.Matches
import Decouple.Proofs.Agreement.Code
import Decouple.Proofs.Separators
import Decouple.Proofs.Hosts
import Decouple.Proofs.Agreement.Markup
import Decouple.Proofs.Agreement.Tags
import Decouple.Proofs.Spotless
import Decouple.Proofs.StaticImports
import Decouple.Proofs.Arrival
import Decouple.Proofs.Fetching
import Decouple.Proofs.Histories
import Decouple.Proofs.RoundTrip
import Decouple.Proofs.Progress
import Decouple.Proofs.Markers
import Decouple.Proofs.Enclosure
import Decouple.Proofs.Removal.Imports
import Decouple.Proofs.Removal.Calls
import Decouple.Proofs.Removal.Operators
import Decouple.Proofs.Removal.Scripts
import Decouple.Proofs.Removal.Attributes
import Decouple.Proofs.Bookkeeping
import Decouple.Proofs.Completing
import Decouple.Proofs.Retries
import Decouple.Proofs.ArchivePaths
import Decouple.Proofs.Locations
import Decouple.Proofs.Corruption
import Decouple.Proofs.Declarations
import Decouple.Proofs.Recommendations
import Decouple.Proofs.Spellings
import Decouple.Proofs.WholeNames
import Decouple.Proofs.Templates
import Decouple.Proofs.Mentions
import Decouple.Proofs.Replies
import Decouple.Proofs.Fences
import Decouple.Proofs.SharedFolders

import Targeting.Feature.Decision
import Targeting.Feature.Decoder
import Targeting.Proofs.Outcome
import Targeting.Proofs.Relation
import Targeting.Proofs.Nesting
import Targeting.Proofs.Refinement
import Targeting.Proofs.Alike
import Targeting.Proofs.Congruence
import Targeting.Proofs.DeepEquality
import Targeting.Proofs.FailClosed
import Targeting.Proofs.NamedPaths
import Targeting.Proofs.Entries
import Targeting.Proofs.Bounds
import Targeting.Proofs.Reporting
import Targeting.Proofs.Decoding
import Targeting.Proofs.Loading
import Targeting.Proofs.Negation
import Targeting.Proofs.Combinators
import Targeting.Proofs.Deciding
import Targeting.Proofs.Places
import Targeting.Proofs.Editing
import Targeting.Proofs.StoredConditions
import Targeting.Proofs.Accepting
import Targeting.Proofs.Conjunction
import Targeting.Proofs.Paths
import Targeting.Proofs.Relocation
import Targeting.Proofs.Laws
import Targeting.Proofs.Paraphrase
import Targeting.Proofs.Conversion
import Targeting.Proofs.PartialEquivalence
import Targeting.Proofs.RoundTrip
import Targeting.Proofs.Items
import Targeting.Proofs.Membership
import Targeting.Proofs.Absence
import Targeting.Proofs.NumberLine
import Targeting.Proofs.TextOrder
import Targeting.Proofs.Ordering
import Targeting.Proofs.EarlyAnswers
import Targeting.Proofs.PathTexts
import Targeting.Proofs.Reachable
import Targeting.Proofs.Rearranging
import Targeting.Proofs.ReadingIntervals
import Targeting.Proofs.ShortestDecimals
import Targeting.Proofs.NumberTexts
import Targeting.Proofs.Courses
import Targeting.Proofs.DepthShift
import Targeting.Proofs.ExactIntegers

import CoverageSubset.Text.Ends
import CoverageSubset.Text.Digits
import CoverageSubset.Double.Basic
import CoverageSubset.Double.Round
import CoverageSubset.Double.Literal
import CoverageSubset.Double.Shortest
import CoverageSubset.Double.Layout
import CoverageSubset.Calendar
import CoverageSubset.Instant.Basic
import CoverageSubset.Instant.Civil
import CoverageSubset.Instant.Literal
import CoverageSubset.Instant.Written
import CoverageSubset.AxisValue
import CoverageSubset.Domain.Entry
import CoverageSubset.Domain.Basic
import CoverageSubset.Text.CaseRanges
import CoverageSubset.Text.Lowercase
import CoverageSubset.Fault
import CoverageSubset.AxisLabel
import CoverageSubset.CustomValue
import CoverageSubset.Subsetting
import CoverageSubset.Envelope
import CoverageSubset.Granule
import CoverageSubset.GranuleFilter
import CoverageSubset.Sorting
import CoverageSubset.GranuleQuery
import CoverageSubset.GridRequest
import CoverageSubset.Defaults
import CoverageSubset.Document.Basic
import CoverageSubset.Document.Number
import CoverageSubset.Document.Reader
import CoverageSubset.Document.Printer
import CoverageSubset.Yaml.Place
import CoverageSubset.Yaml.Folding
import CoverageSubset.Yaml.Scalar
import CoverageSubset.Yaml.Token
import CoverageSubset.Yaml.Reader
import CoverageSubset.Yaml.Meaning
import CoverageSubset.Yaml.Record
import CoverageSubset.Document.Record
import CoverageSubset.Document.Values
import CoverageSubset.Document.Granules
import CoverageSubset.Document.Requests
import CoverageSubset.Catalogue.Basic
import CoverageSubset.Catalogue.Reader
import CoverageSubset.CoverageSet.Identifier
import CoverageSubset.CoverageSet.Section
import CoverageSubset.CoverageSet.Budget
import CoverageSubset.CoverageSet.Description
import CoverageSubset.Document.CoverageSets
import CoverageSubset.Sample
import CoverageSubset.Resolution
import CoverageSubset.Command
import CoverageSubset.Main
import CoverageSubset.Proofs.Outcome
import CoverageSubset.Proofs.AxisOrder
import CoverageSubset.Proofs.AxisDistance
import CoverageSubset.Proofs.Domain.Boundaries
import CoverageSubset.Proofs.Domain.Nearest
import CoverageSubset.Proofs.Domain.Snapping
import CoverageSubset.Proofs.Granule.Selection
import CoverageSubset.Proofs.CoverageSet.Budget
import CoverageSubset.Proofs.CoverageSet.Description
import CoverageSubset.Proofs.Granule.KeyOrder
import CoverageSubset.Proofs.Sorting
import CoverageSubset.Proofs.Granule.LatestTime
import CoverageSubset.Proofs.Defaults
import CoverageSubset.Proofs.Defaults.Latest
import CoverageSubset.Proofs.Catalogue
import CoverageSubset.Proofs.Text.Separators
import CoverageSubset.Proofs.CoverageSet.Identifier
import CoverageSubset.Proofs.Subsetting
import CoverageSubset.Proofs.Domain.Extremes
import CoverageSubset.Proofs.GridRequest
import CoverageSubset.Proofs.Defaults.Failure
import CoverageSubset.Proofs.Granule.Offers
import CoverageSubset.Proofs.Granule.Slices
import CoverageSubset.Proofs.Defaults.Unserved
import CoverageSubset.Proofs.Resolution
import CoverageSubset.Proofs.Defaults.Order
import CoverageSubset.Proofs.Granule.Spans
import CoverageSubset.Proofs.CoverageSet.Answering
import CoverageSubset.Proofs.Resolution.Absence
import CoverageSubset.Proofs.Text.Digits
import CoverageSubset.Proofs.Calendar
import CoverageSubset.Proofs.Instant.Civil
import CoverageSubset.Proofs.Instant.FullWidth
import CoverageSubset.Proofs.Instant.Literals
import CoverageSubset.Proofs.Instant.Years
import CoverageSubset.Proofs.Instant.Written
import CoverageSubset.Proofs.Document.Framing
import CoverageSubset.Proofs.Double.Written
import CoverageSubset.Proofs.Document.RoundTrip
import CoverageSubset.Proofs.Double.Bounds
import CoverageSubset.Proofs.Document.Range
import CoverageSubset.Proofs.Double.Literals
import CoverageSubset.Proofs.Envelope
import CoverageSubset.Proofs.Granule.Stored
import CoverageSubset.Proofs.Domain.Monotone
import CoverageSubset.Proofs.Domain.Canonical
import CoverageSubset.Proofs.Instant.Distance
import CoverageSubset.Proofs.Granule.RequestFilter
import CoverageSubset.Proofs.Granule.Widening
import CoverageSubset.Proofs.Defaults.Gaps
import CoverageSubset.Proofs.CoverageSet.Period
import CoverageSubset.Proofs.Subsetting.CustomValues
import CoverageSubset.Proofs.CoverageSet.Limit
import CoverageSubset.Proofs.Instant.Periods
import CoverageSubset.Proofs.CustomValue
import CoverageSubset.Proofs.CoverageSet.GranuleIdentifier
import CoverageSubset.Proofs.AxisLabel
import CoverageSubset.Proofs.Sample

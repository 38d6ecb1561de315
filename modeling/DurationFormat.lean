import DurationFormat.Elapsed
import DurationFormat.Main
import DurationFormat.Template.Grammar
import DurationFormat.Proofs.NormalForm
import DurationFormat.Proofs.Reader
import DurationFormat.Proofs.Canonical
import DurationFormat.Proofs.Counts
import DurationFormat.Proofs.MixedRadix
import DurationFormat.Proofs.Coarsening
import DurationFormat.Proofs.Rendering
import DurationFormat.Proofs.Separation
import DurationFormat.Proofs.Spelling
import DurationFormat.Proofs.Granularity
import DurationFormat.Proofs.Seams
import DurationFormat.Proofs.Diagnostics
import DurationFormat.Proofs.Placeholders
import DurationFormat.Proofs.Concatenation
import DurationFormat.Proofs.Verbatim
import DurationFormat.Proofs.Remainders
import DurationFormat.Proofs.Words
import DurationFormat.Proofs.ReadingBack
import DurationFormat.Proofs.Quoting
import DurationFormat.Proofs.Listing
import DurationFormat.Proofs.JsonLexemes
import DurationFormat.Proofs.JsonReading
import DurationFormat.Proofs.BreakdownReading
import DurationFormat.Proofs.FormatOrigin
import DurationFormat.Proofs.Outcomes
import DurationFormat.Proofs.Causes
import DurationFormat.Proofs.JsonAnswers
import DurationFormat.Proofs.Saturation
import DurationFormat.Proofs.GranularityReading
import DurationFormat.Proofs.Marks
import DurationFormat.Proofs.Sorting

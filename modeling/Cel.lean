import Cel.Context
import Cel.Engines.Standard
import Cel.Json.Reader
import Cel.Program
import Cel.Proofs.Calculation
import Cel.Proofs.Casts
import Cel.Proofs.Connectives
import Cel.Proofs.Conversions
import Cel.Proofs.CountFilter
import Cel.Proofs.DurationGrammar
import Cel.Proofs.DurationText
import Cel.Proofs.Extremes
import Cel.Proofs.FilterMap
import Cel.Proofs.Height
import Cel.Proofs.JsonNames
import Cel.Proofs.JsonRoundTrip
import Cel.Proofs.Literals
import Cel.Proofs.Lookup
import Cel.Proofs.Macros
import Cel.Proofs.MapLiteral
import Cel.Proofs.Naming
import Cel.Proofs.NodeSlices
import Cel.Proofs.NumberOrder
import Cel.Proofs.Positions
import Cel.Proofs.Presence
import Cel.Proofs.QuotedText
import Cel.Proofs.Reveal
import Cel.Proofs.Search
import Cel.Proofs.Slices
import Cel.Proofs.Sound
import Cel.Proofs.Succession
import Cel.Proofs.TimeArithmetic
import Cel.Proofs.TimeParts
import Cel.Proofs.TimestampText
import Cel.Proofs.Unknowns
import Cel.Proofs.Value.Equal
import Cel.Proofs.Value.Order
import Cel.Proofs.Written

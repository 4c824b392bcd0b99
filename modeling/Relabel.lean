import Relabel.File.Edit
import Relabel.File.Survey
import Relabel.Main
import Relabel.Session
import Relabel.Proofs.Json.Grammar
import Relabel.Proofs.Json.Number
import Relabel.Proofs.Json.Reading
import Relabel.Proofs.Text.Utf8
import Relabel.Proofs.Json.Escape
import Relabel.Proofs.Json.WellFormed
import Relabel.Proofs.Json.RoundTrip
import Relabel.Proofs.Json.Relabel
import Relabel.Proofs.File.Alike
import Relabel.Proofs.File.Writing
import Relabel.Proofs.Revision
import Relabel.Proofs.Batch
import Relabel.Proofs.Text.Decoding
import Relabel.Proofs.Json.Standard
import Relabel.Proofs.Json.Tokens
import Relabel.Proofs.Json.Conformance
import Relabel.Proofs.Json.Unambiguous
import Relabel.Proofs.Json.Value
import Relabel.Proofs.Json.LayoutText
import Relabel.Proofs.Values
import Relabel.Proofs.Policy
import Relabel.Proofs.CommandLine.Mode
import Relabel.Proofs.Order
import Relabel.Proofs.Listing
import Relabel.Proofs.Skipping
import Relabel.Proofs.Success
import Relabel.Proofs.Session
import Relabel.Proofs.Json.CompactText
import Relabel.Proofs.Output.Stream
import Relabel.Proofs.Replacement
import Relabel.Proofs.Presentation
import Relabel.Proofs.EarlyEnd
import Relabel.Proofs.Json.RelabelLaws
import Relabel.Proofs.Json.LayoutShape
import Relabel.Proofs.Encoding
import Relabel.Proofs.Json.Scan
import Relabel.Proofs.Json.Numerals
import Relabel.Proofs.Accounting
import Relabel.Proofs.Telling
import Relabel.Proofs.Traversal
import Relabel.Proofs.Output.Share
import Relabel.Proofs.Output.EventLine
import Relabel.Json.Formatter
import Relabel.Proofs.Summary
import Relabel.Proofs.Json.Fragment
import Relabel.Proofs.Json.Formatter

import LineMap.Argument.LooseFault
import LineMap.Argument.Sorting
import LineMap.FileSystem.Tree
import LineMap.LinearScan
import LineMap.Main
import LineMap.Random.Text
import LineMap.Source.Coercion
import LineMap.Span.Edit
import LineMap.Proofs.LineStarts
import LineMap.Proofs.Lookup
import LineMap.Proofs.ScanAgreement
import LineMap.Proofs.LocationOrder
import LineMap.Proofs.Splitting
import LineMap.Proofs.Insertion
import LineMap.Proofs.SpanEnds
import LineMap.Proofs.Offsets
import LineMap.Proofs.EditRuns
import LineMap.Proofs.MadeSpans
import LineMap.Proofs.TotalLookups
import LineMap.Proofs.Citations
import LineMap.Proofs.NewlinePlaces
import LineMap.Proofs.Utf8Encoding
import LineMap.Proofs.FileTexts
import LineMap.Proofs.JsonReader
import LineMap.Proofs.JsonRoundTrip
import LineMap.Proofs.AllOrNothing
import LineMap.Proofs.ShiftFaults
import LineMap.Proofs.ShiftChains
import LineMap.Proofs.EndShifts
import LineMap.Proofs.Unions
import LineMap.Proofs.Excerpts
import LineMap.Proofs.LineSpans
import LineMap.Proofs.BoundForms
import LineMap.Proofs.SpanViews
import LineMap.Proofs.EndReplacements
import LineMap.Proofs.KindFaults
import LineMap.Proofs.HomePaths
import LineMap.Proofs.LoadFaults
import LineMap.Proofs.WrittenPaths
import LineMap.Proofs.TildePaths
import LineMap.Proofs.GeneratedTexts
import LineMap.Proofs.NewlineSearch
import LineMap.Proofs.Seams
import LineMap.Proofs.Numerals
import LineMap.Proofs.RequestArguments

import LogFilter.Main
import LogFilter.Proofs.Catalog.Admission
import LogFilter.Proofs.Catalog.Conservation
import LogFilter.Proofs.Catalog.History
import LogFilter.Proofs.CommandLine.RoundTrip
import LogFilter.Proofs.Config.FieldListing
import LogFilter.Proofs.Config.Layering
import LogFilter.Proofs.Field.SkipIndex
import LogFilter.Proofs.Field.Verdicts
import LogFilter.Proofs.Fragment.Rewriting
import LogFilter.Proofs.Fragment.Spacing
import LogFilter.Proofs.Http.Agreement
import LogFilter.Proofs.Phrase.LetterCase
import LogFilter.Proofs.Query.Barrier
import LogFilter.Proofs.Query.Canonical
import LogFilter.Proofs.Query.Extent
import LogFilter.Proofs.Query.LetterCase
import LogFilter.Proofs.Request.Bounds
import LogFilter.Proofs.Request.Joining
import LogFilter.Proofs.Request.Listing
import LogFilter.Proofs.Request.Reading

import Listing.Main
import Listing.Program.Files
import Listing.Serving.Route
import Listing.Proofs.Query.Changes
import Listing.Proofs.Translation
import Listing.Proofs.Query.Requests
import Listing.Proofs.Store.Hits
import Listing.Proofs.Serving.Answers
import Listing.Proofs.Text.Cuts
import Listing.Proofs.Paging.Grammar
import Listing.Proofs.Paging.Links
import Listing.Proofs.Params.Encoding
import Listing.Proofs.Serving.Pages
import Listing.Proofs.Serving.Replay
import Listing.Proofs.Serving.Transparency
import Listing.Proofs.Fragment.Field
import Listing.Proofs.Fragment.Shape
import Listing.Proofs.Query.WellFormed
import Listing.Proofs.Query.Reordering
import Listing.Proofs.Serving.Route
import Listing.Proofs.Calendar.Days
import Listing.Proofs.Fragment.Dates
import Listing.Proofs.Query.Overlap
import Listing.Proofs.Serving.Sessions
import Listing.Proofs.Serving.Recall
import Listing.Proofs.Text.Numerals
import Listing.Proofs.Store.Singletons
import Listing.Proofs.Json.Fields
import Listing.Proofs.Program.Batches
import Listing.Proofs.Fragment.Tests
import Listing.Proofs.Paging.Window
import Listing.Proofs.Paging.Unbounded
import Listing.Proofs.Store.Order
import Listing.Proofs.Store.Sorting
import Listing.Proofs.Decimal.Texts
import Listing.Proofs.Store.Operands
import Listing.Proofs.Query.OwnText
import Listing.Proofs.Store.Ids
import Listing.Proofs.Fragment.Terms
import Listing.Proofs.Text.Lower
import Listing.Proofs.Query.Contains
import Listing.Proofs.Calendar.Months
import Listing.Proofs.Fragment.DateReaders
import Listing.Proofs.Query.Months
import Listing.Proofs.Calendar.Writing
import Listing.Proofs.Fragment.Blame
import Listing.Proofs.Query.Formats
import Listing.Proofs.Query.Recovery
import Listing.Proofs.Store.Calls
import Listing.Proofs.Serving.Recency
import Listing.Proofs.Query.Categories
import Listing.Proofs.Json.Written
import Listing.Proofs.Program.MemberOrder
import Listing.Proofs.Program.Lifetimes

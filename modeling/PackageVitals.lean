import PackageVitals.Main
import PackageVitals.Program.Order
import PackageVitals.Repository.Fields
import PackageVitals.Proofs.Course
import PackageVitals.Proofs.Ensures
import PackageVitals.Proofs.Account
import PackageVitals.Proofs.Reading
import PackageVitals.Proofs.Uncancelled
import PackageVitals.Proofs.Returning
import PackageVitals.Proofs.Hearing
import PackageVitals.Proofs.Harmless
import PackageVitals.Proofs.Address
import PackageVitals.Proofs.Script
import PackageVitals.Proofs.Endpoint
import PackageVitals.Proofs.Independence
import PackageVitals.Proofs.Merging
import PackageVitals.Proofs.Contribution
import PackageVitals.Proofs.Kinds
import PackageVitals.Proofs.Tolerance
import PackageVitals.Proofs.Reaching
import PackageVitals.Proofs.Alike
import PackageVitals.Proofs.Counterpart
import PackageVitals.Proofs.Opening
import PackageVitals.Proofs.Casing
import PackageVitals.Proofs.Scoping
import PackageVitals.Proofs.Confining
import PackageVitals.Proofs.Rounding
import PackageVitals.Proofs.Shortest
import PackageVitals.Proofs.Numeral
import PackageVitals.Proofs.Quotation
import PackageVitals.Proofs.Roundtrip
import PackageVitals.Proofs.Canonical
import PackageVitals.Proofs.Storing
import PackageVitals.Proofs.Presenting
import PackageVitals.Proofs.Spelling
import PackageVitals.Proofs.Paging
import PackageVitals.Proofs.Counting
import PackageVitals.Proofs.Missing
import PackageVitals.Proofs.Ranking
import PackageVitals.Proofs.Rereading
import PackageVitals.Proofs.Polling
import PackageVitals.Proofs.Parting
import PackageVitals.Proofs.Shorthand
import PackageVitals.Proofs.Shadowing
import PackageVitals.Proofs.Question
import PackageVitals.Proofs.Filing
import PackageVitals.Proofs.Lowering
import PackageVitals.Proofs.Usable
import PackageVitals.Proofs.Branching
import PackageVitals.Proofs.Sending
import PackageVitals.Proofs.Profile
import PackageVitals.Proofs.Averaging
import PackageVitals.Proofs.Naming

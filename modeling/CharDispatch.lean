import CharDispatch.Codec.Declaration
import CharDispatch.Codec.Options
import CharDispatch.Codec.Target
import CharDispatch.Dispatch.Table
import CharDispatch.Generation
import CharDispatch.Proofs.Outcome
import CharDispatch.Proofs.Accounting
import CharDispatch.Proofs.Reports
import CharDispatch.Proofs.Reading
import CharDispatch.Proofs.BodyText
import CharDispatch.Proofs.TargetText
import CharDispatch.Proofs.HintName
import CharDispatch.Proofs.Registration
import CharDispatch.Proofs.Identity
import CharDispatch.Proofs.Soundness
import CharDispatch.Proofs.Conflicts
import CharDispatch.Proofs.Offers
import CharDispatch.Proofs.FirstWins
import CharDispatch.Proofs.Locality
import CharDispatch.Proofs.Growth
import CharDispatch.Proofs.Lookup
import CharDispatch.Proofs.Requests
import CharDispatch.Proofs.MarkerDefinition
import CharDispatch.Proofs.Retention
import CharDispatch.Proofs.Traversal
import CharDispatch.Proofs.Arguments
import CharDispatch.Proofs.RoundTrip
import CharDispatch.Proofs.Sparse
import CharDispatch.Proofs.Persistence
import CharDispatch.Proofs.Nesting
import CharDispatch.Proofs.MarkerText
import CharDispatch.Proofs.Settings

import Stubgen.Main
import Stubgen.Proofs.Class.Growth
import Stubgen.Proofs.Class.Json
import Stubgen.Proofs.Command.Precedence
import Stubgen.Proofs.Command.Runs
import Stubgen.Proofs.Command.SavedListings
import Stubgen.Proofs.Descriptor.OneToken
import Stubgen.Proofs.Descriptor.Rendering
import Stubgen.Proofs.Listing.Continuation
import Stubgen.Proofs.Listing.Relaid
import Stubgen.Proofs.Listing.Skipping
import Stubgen.Proofs.Listing.Transparency
import Stubgen.Proofs.Pipeline
import Stubgen.Proofs.Python.Distinct
import Stubgen.Proofs.Python.Docstring
import Stubgen.Proofs.Python.Recovery
import Stubgen.Proofs.Python.Relocation
import Stubgen.Proofs.Regex.WholeName
import Stubgen.Proofs.Run.Collect
import Stubgen.Proofs.Run.Output
import Stubgen.Proofs.Command.Beside

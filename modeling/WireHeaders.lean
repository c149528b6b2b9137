import WireHeaders.Main
import WireHeaders.Files.Tree
import WireHeaders.Tree.Encode
import WireHeaders.Proofs.Data.Lookup
import WireHeaders.Proofs.Discovery.Candidates
import WireHeaders.Proofs.Discovery.Finds
import WireHeaders.Proofs.Discovery.Reference
import WireHeaders.Proofs.Header.Generated
import WireHeaders.Proofs.Output.InMemory
import WireHeaders.Proofs.Output.History
import WireHeaders.Proofs.Json.Reading
import WireHeaders.Proofs.Json.Decoding
import WireHeaders.Proofs.Json.Nesting
import WireHeaders.Proofs.Json.Records
import WireHeaders.Proofs.Tree.RoundTrip
import WireHeaders.Proofs.Files.Location
import WireHeaders.Proofs.Files.Keeps
import WireHeaders.Proofs.Output.InDirectory
import WireHeaders.Proofs.Command.Stages
import WireHeaders.Proofs.Command.Convergence
import WireHeaders.Proofs.Files.Changes
import WireHeaders.Proofs.Files.Grounded
import WireHeaders.Proofs.Output.DryRun
import WireHeaders.Proofs.Data.Alignment
import WireHeaders.Proofs.Discovery.Alike
import WireHeaders.Proofs.Discovery.Sharing
import WireHeaders.Proofs.Header.Blocks
import WireHeaders.Proofs.Generation.Locality
import WireHeaders.Proofs.Generation.Exchange
import WireHeaders.Proofs.Generation.ScopeOrder
import WireHeaders.Proofs.Generation.Reached
import WireHeaders.Proofs.Files.Descent
import WireHeaders.Proofs.Header.Places
import WireHeaders.Proofs.Output.Landing
import WireHeaders.Proofs.Output.Collisions
import WireHeaders.Proofs.Output.Confinement
import WireHeaders.Proofs.Discovery.Growth
import WireHeaders.Proofs.Header.Clashes
import WireHeaders.Proofs.Naming.Ascii
import WireHeaders.Proofs.Naming.Cuts
import WireHeaders.Proofs.Naming.Shape
import WireHeaders.Proofs.Naming.Joints
import WireHeaders.Proofs.Naming.Recasing
import WireHeaders.Proofs.Header.Lines
import WireHeaders.Proofs.Header.Literals
import WireHeaders.Proofs.Header.Macro
import WireHeaders.Proofs.Header.Members
import WireHeaders.Proofs.Naming.LastName
import WireHeaders.Proofs.Header.Cases
import WireHeaders.Proofs.Files.Additions
import WireHeaders.Proofs.Output.Footprint
import WireHeaders.Proofs.Files.Respelling
import WireHeaders.Proofs.Header.BaseNames
import WireHeaders.Proofs.Header.ClosedLiterals
import WireHeaders.Proofs.Log.Told
import WireHeaders.Proofs.Tree.Writings
import WireHeaders.Proofs.Tree.History

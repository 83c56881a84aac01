import ConnectString.Main
import ConnectString.Registry.Shelf
import ConnectString.Window.Session
import ConnectString.Proofs.Descriptor.Grammar
import ConnectString.Proofs.Descriptor.Completeness
import ConnectString.Proofs.Descriptor.Soundness
import ConnectString.Proofs.Descriptor.RoundTrip
import ConnectString.Proofs.Text.Search
import ConnectString.Proofs.Window.Split
import ConnectString.Proofs.Resolve.Address
import ConnectString.Proofs.Resolve.Credentials
import ConnectString.Proofs.Descriptor.Limit
import ConnectString.Proofs.Registry.Limits
import ConnectString.Proofs.Resolve.Flat
import ConnectString.Proofs.Descriptor.Extraction
import ConnectString.Proofs.Descriptor.Route
import ConnectString.Proofs.Resolve.Route
import ConnectString.Proofs.Descriptor.Provenance
import ConnectString.Proofs.Descriptor.Position
import ConnectString.Proofs.Resolve.Coherence
import ConnectString.Proofs.Resolve.Provenance
import ConnectString.Proofs.Text.Utf8
import ConnectString.Proofs.Descriptor.Bytewise
import ConnectString.Proofs.Descriptor.Simulation
import ConnectString.Proofs.Descriptor.Visible
import ConnectString.Proofs.Registry.History
import ConnectString.Proofs.Settings.Depth
import ConnectString.Proofs.Registry.Report
import ConnectString.Proofs.Resolve.Report
import ConnectString.Proofs.Descriptor.Edit
import ConnectString.Proofs.Descriptor.Degenerate
import ConnectString.Proofs.Environment.Pieces
import ConnectString.Proofs.Environment.Substitution
import ConnectString.Proofs.Resolve.FlatForm
import ConnectString.Proofs.Command.Batch
import ConnectString.Proofs.Command.ListFile
import ConnectString.Proofs.Toml.Scalar
import ConnectString.Proofs.Toml.Lines
import ConnectString.Proofs.Settings.Print
import ConnectString.Proofs.Toml.Codec
import ConnectString.Proofs.Settings.Variable
import ConnectString.Proofs.Settings.Layers
import ConnectString.Proofs.Window.Moves
import ConnectString.Proofs.Window.Session

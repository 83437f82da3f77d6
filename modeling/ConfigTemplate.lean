import ConfigTemplate.Main
import ConfigTemplate.Proofs.Bindings.Channels
import ConfigTemplate.Proofs.Bindings.History
import ConfigTemplate.Proofs.Bindings.Operation
import ConfigTemplate.Proofs.CommandLine.Emission
import ConfigTemplate.Proofs.CommandLine.Inventory
import ConfigTemplate.Proofs.CommandLine.Precedence
import ConfigTemplate.Proofs.Domain.Canonical
import ConfigTemplate.Proofs.Placeholder.Segments
import ConfigTemplate.Proofs.Placeholder.Use
import ConfigTemplate.Proofs.Template.Lines
import ConfigTemplate.Proofs.Template.Scanned
import ConfigTemplate.Proofs.Training.BuiltinVerdict
import ConfigTemplate.Proofs.Training.PrettyRoundTrip
import ConfigTemplate.Proofs.Training.UnknownMembers
import ConfigTemplate.Proofs.Validation.LayerIds
import ConfigTemplate.Proofs.Validation.PathWarnings
import ConfigTemplate.Proofs.Validation.ScheduleBounds

import Provision.Main
import Provision.Proofs.Conversion.Run
import Provision.Proofs.Conversion.Compiled
import Provision.Proofs.Conversion.Assembled
import Provision.Proofs.Conversion.Edges
import Provision.Proofs.Conversion.Isolation
import Provision.Proofs.Conversion.Order
import Provision.Proofs.Conversion.Prerequisites
import Provision.Proofs.Expansion.Copies
import Provision.Proofs.Conversion.Own
import Provision.Proofs.Conversion.Visibility
import Provision.Proofs.Handler.Packages
import Provision.Proofs.Pin
import Provision.Proofs.Handler.Wishes
import Provision.Proofs.Conversion.Packages
import Provision.Proofs.Registry.Check
import Provision.Proofs.Conversion.Faults
import Provision.Proofs.Conversion.Depth
import Provision.Proofs.Conversion.Phases
import Provision.Proofs.Registry.Tags
import Provision.Proofs.Conversion.Apart
import Provision.Proofs.Conversion.Steps
import Provision.Proofs.Conversion.Recognized
import Provision.Proofs.Registry.File
import Provision.Proofs.Settings
import Provision.Proofs.Cli.Precedence
import Provision.Proofs.Conversion.States
import Provision.Proofs.Conversion.Addressable
import Provision.Proofs.Document.Json
import Provision.Proofs.Expansion.Exact
import Provision.Proofs.Handler.Frame
import Provision.Proofs.Handler.Partition
import Provision.Proofs.Renaming
import Provision.Proofs.Conversion.Triggers
import Provision.Proofs.Conversion.Neutrality
import Provision.Proofs.Plan
import Provision.Proofs.Handler.Host
import Provision.Proofs.Schema.Draft
import Provision.Proofs.Conversion.Moves

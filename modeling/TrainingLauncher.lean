import TrainingLauncher.Main
import TrainingLauncher.Job
import TrainingLauncher.Json.LaunchConfig
import TrainingLauncher.Rehearsal.Machine
import TrainingLauncher.Rehearsal.Stage
import TrainingLauncher.Json.Defaults
import TrainingLauncher.Toml.Defaults
import TrainingLauncher.Proofs.Outcome
import TrainingLauncher.Proofs.FailureReport
import TrainingLauncher.Proofs.Children
import TrainingLauncher.Proofs.PortBlock
import TrainingLauncher.Proofs.Topology.Agreement
import TrainingLauncher.Proofs.Topology.Distinctness
import TrainingLauncher.Proofs.Refusal
import TrainingLauncher.Proofs.Topology.Contract
import TrainingLauncher.Proofs.Redelivery
import TrainingLauncher.Proofs.Completion
import TrainingLauncher.Proofs.Inheritance
import TrainingLauncher.Proofs.Deployment
import TrainingLauncher.Proofs.Shutdown
import TrainingLauncher.Proofs.Rendezvous
import TrainingLauncher.Proofs.Undisturbed
import TrainingLauncher.Proofs.Topology.Residence
import TrainingLauncher.Proofs.Affinity
import TrainingLauncher.Proofs.Precedence
import TrainingLauncher.Proofs.Sweeps
import TrainingLauncher.Proofs.Rollback
import TrainingLauncher.Proofs.Topology.Placement
import TrainingLauncher.Proofs.Topology.Resolution
import TrainingLauncher.Proofs.NodeIdentity
import TrainingLauncher.Proofs.Topology.Staffing
import TrainingLauncher.Proofs.Topology.Scheduling
import TrainingLauncher.Proofs.Topology.Overflow
import TrainingLauncher.Proofs.Probing
import TrainingLauncher.Proofs.Devices
import TrainingLauncher.Proofs.Balance
import TrainingLauncher.Proofs.EndpointList
import TrainingLauncher.Proofs.Storing
import TrainingLauncher.Proofs.Serialization
import TrainingLauncher.Proofs.Environment.Table

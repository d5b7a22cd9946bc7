import QuantumRuntime.Config.Document
import QuantumRuntime.Config.Logging
import QuantumRuntime.Decimal.Fixed
import QuantumRuntime.Jobs
import QuantumRuntime.Program.Script
import QuantumRuntime.Sequence.Grid
import QuantumRuntime.Proofs.HandleTable.Occupancy
import QuantumRuntime.Proofs.HandleTable.Shape
import QuantumRuntime.Proofs.HandleTable.Lifetimes
import QuantumRuntime.Proofs.Performance
import QuantumRuntime.Proofs.OverlookedChanges
import QuantumRuntime.Proofs.Simulator.Amplitudes
import QuantumRuntime.Proofs.Simulator.Effects
import QuantumRuntime.Proofs.Simulator.Controls
import QuantumRuntime.Proofs.Simulator.Fresh
import QuantumRuntime.Proofs.Simulator.Positions
import QuantumRuntime.Proofs.Simulator.Removal
import QuantumRuntime.Proofs.ExactReal
import QuantumRuntime.Proofs.Simulator.BasisStates
import QuantumRuntime.Proofs.Simulator.BitEffects
import QuantumRuntime.Proofs.Simulator.ClassicalAgreement
import QuantumRuntime.Proofs.Backend.Exchanges
import QuantumRuntime.Proofs.Scope.Requests
import QuantumRuntime.Proofs.Scope.Teardown
import QuantumRuntime.Proofs.Scope.Routine
import QuantumRuntime.Proofs.Scope.Scripts
import QuantumRuntime.Proofs.Scope.Advance
import QuantumRuntime.Proofs.Scope.Nesting
import QuantumRuntime.Proofs.Scope.History
import QuantumRuntime.Proofs.Scope.Owed
import QuantumRuntime.Proofs.Backend.Holdings
import QuantumRuntime.Proofs.Simulator.Bookkeeping
import QuantumRuntime.Proofs.Scope.Reclaiming
import QuantumRuntime.Proofs.Simulator.LayerEffects
import QuantumRuntime.Proofs.Simulator.Refusals
import QuantumRuntime.Proofs.Backend.Census
import QuantumRuntime.Proofs.Simulator.Objections
import QuantumRuntime.Proofs.Simulator.Acceptance
import QuantumRuntime.Proofs.Simulator.Lockstep
import QuantumRuntime.Proofs.Backend.Clients
import QuantumRuntime.Proofs.Simulator.QubitReuse
import QuantumRuntime.Proofs.Callable.Dispatch
import QuantumRuntime.Proofs.Callable.NormalForm
import QuantumRuntime.Proofs.Simulator.CircuitDepth
import QuantumRuntime.Proofs.Simulator.Counting
import QuantumRuntime.Proofs.Backend.Outcomes
import QuantumRuntime.Proofs.Backend.ResultNames
import QuantumRuntime.Proofs.Simulator.RecordedOutcomes
import QuantumRuntime.Proofs.Simulator.ResourceAccount
import QuantumRuntime.Proofs.Simulator.ResultModes
import QuantumRuntime.Proofs.AmplitudeLaws
import QuantumRuntime.Proofs.Simulator.GatePairs
import QuantumRuntime.Proofs.Simulator.UnitaryGates
import QuantumRuntime.Proofs.Simulator.GateCalls
import QuantumRuntime.Proofs.Simulator.AdjointCircuits
import QuantumRuntime.Proofs.Simulator.Weights
import QuantumRuntime.Proofs.Simulator.PossibleOutcomes
import QuantumRuntime.Proofs.Simulator.IndependentGates
import QuantumRuntime.Proofs.Simulator.ActiveControls
import QuantumRuntime.Proofs.Simulator.ControlOrder
import QuantumRuntime.Proofs.Simulator.PairUpdates
import QuantumRuntime.Proofs.Simulator.Compaction
import QuantumRuntime.Proofs.Simulator.RepeatedMeasurement
import QuantumRuntime.Proofs.Scope.Runs
import QuantumRuntime.Proofs.Program.QubitArrays
import QuantumRuntime.Proofs.Program.AllOrNothing
import QuantumRuntime.Proofs.Program.ReleasedPrefix
import QuantumRuntime.Proofs.Simulator.ExchangedQubits
import QuantumRuntime.Proofs.Program.SwappedQubits
import QuantumRuntime.Proofs.Simulator.ReadOuts
import QuantumRuntime.Proofs.Simulator.QubitResets
import QuantumRuntime.Proofs.Program.ResetQubits
import QuantumRuntime.Proofs.Sequence.RangeLength
import QuantumRuntime.Proofs.Program.BalancedPrograms
import QuantumRuntime.Proofs.Program.BorrowedQubits
import QuantumRuntime.Proofs.Program.NeutralProtocols
import QuantumRuntime.Proofs.Simulator.EvenBranches
import QuantumRuntime.Proofs.Program.StateStages
import QuantumRuntime.Proofs.Simulator.LaterDraws
import QuantumRuntime.Proofs.Program.AgreeingBits
import QuantumRuntime.Proofs.Simulator.CarriedStates
import QuantumRuntime.Proofs.Simulator.SentStates
import QuantumRuntime.Proofs.Program.Teleportation
import QuantumRuntime.Proofs.Sequence.Progression
import QuantumRuntime.Proofs.Sequence.Slices
import QuantumRuntime.Proofs.Sequence.Places
import QuantumRuntime.Proofs.Sequence.IndexLists
import QuantumRuntime.Proofs.Sequence.Projections
import QuantumRuntime.Proofs.Sequence.RowMajor
import QuantumRuntime.Proofs.HandleTable.Recycling
import QuantumRuntime.Proofs.Simulator.InsertedQubits
import QuantumRuntime.Proofs.Simulator.DrawCount
import QuantumRuntime.Proofs.Config.WrittenValues
import QuantumRuntime.Proofs.Config.Overrides

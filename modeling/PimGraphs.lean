import PimGraphs.Compute.Aggregation
import PimGraphs.Compute.GatherOrder
import PimGraphs.Compute.GatherForwarding
import PimGraphs.Compute.Gru
import PimGraphs.Compute.GruResult
import PimGraphs.Compute.Interleaving
import PimGraphs.Compute.Interpreter
import PimGraphs.Compute.MessageWeights
import PimGraphs.Compute.PhaseAccounting
import PimGraphs.Compute.Pipeline
import PimGraphs.Compute.Psau
import PimGraphs.Compute.Simd
import PimGraphs.Compute.RegisterAccess
import PimGraphs.Compute.StallState
import PimGraphs.Compute.SharedGru
import PimGraphs.Compute.VaultFrame
import PimGraphs.Compute.VertexGather
import PimGraphs.Compute.VertexProgram
import PimGraphs.Compute.VertexRun
import PimGraphs.Compute.HiddenLoads
import PimGraphs.Compute.RecurrentState
import PimGraphs.Compute.PsauStream
import PimGraphs.Compute.VectorLanes
import PimGraphs.Compute.VertexResult
import PimGraphs.Compute.Wavefront
import PimGraphs.Compute.WriteBack
import PimGraphs.Library.InPlace
import PimGraphs.Library.Latency
import PimGraphs.Library.Run
import PimGraphs.Library.Sweep
import PimGraphs.Library.TokenBucket
import PimGraphs.Library.Waiting
import PimGraphs.Library.WhileLoop
import PimGraphs.Memory.AddressRegions
import PimGraphs.Memory.BatchOverlap
import PimGraphs.Memory.BufferStorage
import PimGraphs.Memory.FixedLatency
import PimGraphs.Memory.GatherBatch
import PimGraphs.Memory.BatchProgress
import PimGraphs.Memory.Piccolo
import PimGraphs.Memory.Router
import PimGraphs.Memory.RouterLink
import PimGraphs.Memory.RateWindow
import PimGraphs.Memory.Service
import PimGraphs.Partition.Balance
import PimGraphs.Partition.Chunks
import PimGraphs.Partition.FeaturePartitioner
import PimGraphs.Simulator.Accounting
import PimGraphs.Simulator.Boundary
import PimGraphs.Simulator.Defs
import PimGraphs.Simulator.Delivery
import PimGraphs.Simulator.Loop
import PimGraphs.Simulator.Writeback
import PimGraphs.Simulator.Counters
import PimGraphs.Simulator.Composition
import PimGraphs.Simulator.CutPoints
import PimGraphs.Simulator.Aggregate
import PimGraphs.Simulator.Arbitration
import PimGraphs.Simulator.Maximality
import PimGraphs.Simulator.Message
import PimGraphs.Simulator.PsauDrain
import PimGraphs.Simulator.Budget
import PimGraphs.Simulator.TreeWriteback
import PimGraphs.Simulator.Isolation
import PimGraphs.Simulator.GruUpdate
import PimGraphs.Memory.Timing
import PimGraphs.Simulator.Timing
import PimGraphs.Simulator.Drain
import PimGraphs.Simulator.Throughput
import PimGraphs.Simulator.Bandwidth
import PimGraphs.Simulator.Serialized
import PimGraphs.Simulator.Fairness
import PimGraphs.Simulator.Starvation
import PimGraphs.Simulator.Programs
import PimGraphs.Simulator.BurstSizes
import PimGraphs.Library.Potential
import PimGraphs.Compute.CoreWork
import PimGraphs.Memory.RouterProgress
import PimGraphs.Simulator.Progress
import PimGraphs.Simulator.Termination

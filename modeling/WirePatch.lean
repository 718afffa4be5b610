import WirePatch.Foundations.BitMask
import WirePatch.Foundations.ByteMemory
import WirePatch.Simulator.State
import WirePatch.Simulator.Arithmetic
import WirePatch.Simulator.Exceptions
import WirePatch.Simulator.Translation
import WirePatch.Simulator.Alu
import WirePatch.Simulator.Memory
import WirePatch.Simulator.Spr
import WirePatch.Simulator.Transfer
import WirePatch.Simulator.Execute
import WirePatch.Simulator.Executable
import WirePatch.Simulator.Step
import WirePatch.Foundations.PartialRun
import WirePatch.Simulator.Frame
import WirePatch.Recovery.RunSim
import WirePatch.Recovery.ResumePoint
import WirePatch.Recovery.Loop
import WirePatch.Simulator.Sequence
import WirePatch.Simulator.Privilege
import WirePatch.Conformance.ExceptionEntry
import WirePatch.Foundations.ShiftArithmetic
import WirePatch.Simulator.BitSerial
import WirePatch.Hardware.Processor
import WirePatch.Hardware.Ctrl
import WirePatch.Hardware.Alu
import WirePatch.Hardware.MultMac
import WirePatch.Hardware.Divider
import WirePatch.Foundations.PriorityChain
import WirePatch.Hardware.Shifter
import WirePatch.Conformance.BitSearch
import WirePatch.Conformance.Arithmetic
import WirePatch.Simulator.Status
import WirePatch.Simulator.SubWord
import WirePatch.Foundations.SignedField
import WirePatch.Foundations.DefinedShift
import WirePatch.Foundations.SplitAccumulator
import WirePatch.Simulator.SignExtension
import WirePatch.Simulator.Instruction
import WirePatch.Simulator.Shifts
import WirePatch.Simulator.Encoding
import WirePatch.Simulator.Accumulator
import WirePatch.Simulator.Faults
import WirePatch.Simulator.Unassigned
import WirePatch.Simulator.Restart
import WirePatch.Recovery.Reconstruct
import WirePatch.Recovery.LookBack
import WirePatch.Recovery.Handler
import WirePatch.Fabric.Ovl
import WirePatch.Fabric.DeltaWindow
import WirePatch.Fabric.BakedIn
import WirePatch.Fabric.Escalation
import WirePatch.Fabric.ControlFlow
import WirePatch.Fabric.ExceptionRegisters
import WirePatch.Fabric.Blocks
import WirePatch.Foundations.ReductionTree
import WirePatch.Fabric.Stitch
import WirePatch.Fabric.Circuit
import WirePatch.Fabric.Meaning
import WirePatch.Fabric.Driver
import WirePatch.Fabric.Report
import WirePatch.Fabric.Glue
import WirePatch.Fabric.Record
import WirePatch.Fabric.Monitor
import WirePatch.Fabric.Modes
import WirePatch.Fabric.Occurrences
import WirePatch.Conformance.Integers
import WirePatch.Conformance.Shifts
import WirePatch.Simulator.Supervision
import WirePatch.Simulator.Devices
import WirePatch.Fabric.Stalls
import WirePatch.Fabric.Names
import WirePatch.Fabric.Loader
import WirePatch.Fabric.Silence
import WirePatch.Hardware.SprAccess
import WirePatch.Fabric.UserAccess
import WirePatch.Fabric.ConfigProgram
import WirePatch.Recovery.Routine
import WirePatch.Fabric.Checkers
import WirePatch.Recovery.Defense
import WirePatch.Foundations.Strobe
import WirePatch.Fabric.Settling
import WirePatch.Conformance.Memory
import WirePatch.Conformance.Translation
import WirePatch.Recovery.Response
import WirePatch.Hardware.Operands
import WirePatch.Hardware.Result
import WirePatch.Conformance.Computation
import WirePatch.Hardware.Genpc
import WirePatch.Hardware.Fetch
import WirePatch.Recovery.Dispatch
import WirePatch.Recovery.Entry
import WirePatch.Conformance.Branches

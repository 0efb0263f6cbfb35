import Memoryless.Bytes
import Memoryless.Code
import Memoryless.Code.MemoryUse
import Memoryless.Code.Walk
import Memoryless.Collation
import Memoryless.Command.Arguments
import Memoryless.Command.Files
import Memoryless.Command.Location
import Memoryless.Command.Log
import Memoryless.Command.LogFilter
import Memoryless.Command.Run
import Memoryless.Draft
import Memoryless.Draft.Instruction
import Memoryless.Export
import Memoryless.Fault
import Memoryless.Instruction
import Memoryless.Instruction.Immediate
import Memoryless.Instruction.Memory
import Memoryless.Instruction.Opcode
import Memoryless.Instruction.Operator
import Memoryless.Instruction.Table
import Memoryless.Integer
import Memoryless.Leb128
import Memoryless.Main
import Memoryless.Module
import Memoryless.Module.Binary
import Memoryless.Module.Cursors
import Memoryless.Name
import Memoryless.Numeral
import Memoryless.Reader
import Memoryless.Removal
import Memoryless.Section
import Memoryless.Section.Frame
import Memoryless.Stripping
import Memoryless.Text.Alphanumeric
import Memoryless.Text.Blank
import Memoryless.Text.CodePoints
import Memoryless.Text.Pieces
import Memoryless.Text.Visible
import Memoryless.Proofs.BinaryForm
import Memoryless.Proofs.ExportForm
import Memoryless.Proofs.MemoryRemoval
import Memoryless.Proofs.CodeForm
import Memoryless.Proofs.InstructionRun
import Memoryless.Proofs.MemoryGate
import Memoryless.Proofs.Bracketing
import Memoryless.Proofs.Diagnosis
import Memoryless.Proofs.RoundTrip
import Memoryless.Proofs.Restripping
import Memoryless.Proofs.SizeReduction
import Memoryless.Proofs.Interleaving
import Memoryless.Proofs.Sessions
import Memoryless.Proofs.Transparency
import Memoryless.Proofs.AllOrNothing
import Memoryless.Proofs.ExportDiagnosis
import Memoryless.Proofs.ShortestExports
import Memoryless.Proofs.RemovalOutcome
import Memoryless.Proofs.Classification
import Memoryless.Proofs.OpcodeLocation
import Memoryless.Proofs.UnknownOpcodes
import Memoryless.Proofs.Relocation
import Memoryless.Proofs.Truncation
import Memoryless.Proofs.ShortestModules
import Memoryless.Proofs.ErrorLocation
import Memoryless.Proofs.DraftForm
import Memoryless.Proofs.WrittenInstructions
import Memoryless.Proofs.DraftOutcome
import Memoryless.Proofs.Settings
import Memoryless.Proofs.ImportedMemories
import Memoryless.Proofs.LockStep
import Memoryless.Proofs.Counters
import Memoryless.Code.Refusal
import Memoryless.Proofs.Refusals

import Devirt.Numeric.FloatText
import Devirt.Numeric.Hex
import Devirt.Numeric.LittleEndian
import Devirt.Label
import Devirt.Text.GraphemeExtend
import Devirt.Text.Quoted
import Devirt.Layout
import Devirt.Opcode.Basic
import Devirt.Opcode.LongForm
import Devirt.Catalog
import Devirt.Instruction
import Devirt.Body.Basic
import Devirt.Body.Encoding
import Devirt.Body.ExceptionSection
import Devirt.Body.StackDepth
import Devirt.Flag
import Devirt.Machine
import Devirt.Method
import Devirt.Relaxation
import Devirt.Expr
import Devirt.Graph
import Devirt.Lowering.Binding
import Devirt.Lowering.Balance
import Devirt.Lowering.Code
import Devirt.Lowering.Listing
import Devirt.Lowering.Regions
import Devirt.Regeneration
import Devirt.Proofs.StackDepth.Soundness
import Devirt.Proofs.Relaxation.Least
import Devirt.Proofs.Regeneration.Encoding
import Devirt.Proofs.Regeneration.Handlers
import Devirt.Proofs.Numeric.SignedFields
import Devirt.Proofs.Opcode.PrefixCode
import Devirt.Proofs.Body.Fields
import Devirt.Proofs.Body.Slices
import Devirt.Proofs.Body.SectionClauses
import Devirt.Proofs.StackDepth.Widening
import Devirt.Proofs.Regeneration.Relaxing
import Devirt.Proofs.StackDepth.Faults
import Devirt.Proofs.StackDepth.Cost
import Devirt.Proofs.Lowering.Balanced
import Devirt.Proofs.Lowering.Faults
import Devirt.Proofs.Regeneration.Balance
import Devirt.Proofs.Catalog.Tables
import Devirt.Proofs.Catalog.Tokens
import Devirt.Proofs.Catalog.Invariants
import Devirt.Proofs.Catalog.Requests
import Devirt.Proofs.Catalog.Store
import Devirt.Proofs.Catalog.Interning
import Devirt.Proofs.Lowering.Binding
import Devirt.Proofs.Regeneration.Nodes
import Devirt.Proofs.Regeneration.Atomicity
import Devirt.Proofs.Regeneration.OffsetOrder
import Devirt.Proofs.Regeneration.Filters
import Devirt.Proofs.Lowering.ValuesBelow
import Devirt.Proofs.Lowering.Offences
import Devirt.Proofs.Lowering.FlagsCalls
import Devirt.Proofs.Lowering.Places
import Devirt.Proofs.Regions.Contiguity
import Devirt.Proofs.Instruction.StackUse
import Devirt.Proofs.Machine.Assignments
import Devirt.Proofs.Relaxation.Rounds
import Devirt.Proofs.Layout.Lookups
import Devirt.Proofs.Body.Succession
import Devirt.Proofs.StackDepth.Tally
import Devirt.Proofs.Lowering.Thresholds
import Devirt.Proofs.Catalog.Store

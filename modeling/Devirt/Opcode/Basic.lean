/-!
# Opcodes

The opcodes of the Common Intermediate Language, in the order of their encodings, with the
vocabulary that describes them: the kind of operand an opcode carries, how many evaluation stack
slots it takes and leaves, and how it passes control on.
-/

namespace Devirt

/-- An opcode. Constructors are named for mnemonics, a dot being the start of a new word. -/
inductive Opcode where
  | nop | breakpoint | ldarg0 | ldarg1 | ldarg2 | ldarg3 | ldloc0 | ldloc1 | ldloc2 | ldloc3
  | stloc0 | stloc1 | stloc2 | stloc3 | ldargS | ldargaS | stargS | ldlocS | ldlocaS | stlocS
  | ldnull | ldcI4M1 | ldcI40 | ldcI41 | ldcI42 | ldcI43 | ldcI44 | ldcI45 | ldcI46 | ldcI47
  | ldcI48 | ldcI4S | ldcI4 | ldcI8 | ldcR4 | ldcR8 | dup | pop | jmp | call | calli | ret | brS
  | brfalseS | brtrueS | beqS | bgeS | bgtS | bleS | bltS | bneUnS | bgeUnS | bgtUnS | bleUnS
  | bltUnS | br | brfalse | brtrue | beq | bge | bgt | ble | blt | bneUn | bgeUn | bgtUn | bleUn
  | bltUn | switch | ldindI1 | ldindU1 | ldindI2 | ldindU2 | ldindI4 | ldindU4 | ldindI8 | ldindI
  | ldindR4 | ldindR8 | ldindRef | stindRef | stindI1 | stindI2 | stindI4 | stindI8 | stindR4
  | stindR8 | add | sub | mul | div | divUn | rem | remUn | and | or | xor | shl | shr | shrUn
  | neg | not | convI1 | convI2 | convI4 | convI8 | convR4 | convR8 | convU4 | convU8 | callvirt
  | cpobj | ldobj | ldstr | newobj | castclass | isinst | convRUn | unbox | throw | ldfld | ldflda
  | stfld | ldsfld | ldsflda | stsfld | stobj | convOvfI1Un | convOvfI2Un | convOvfI4Un
  | convOvfI8Un | convOvfU1Un | convOvfU2Un | convOvfU4Un | convOvfU8Un | convOvfIUn | convOvfUUn
  | box | newarr | ldlen | ldelema | ldelemI1 | ldelemU1 | ldelemI2 | ldelemU2 | ldelemI4
  | ldelemU4 | ldelemI8 | ldelemI | ldelemR4 | ldelemR8 | ldelemRef | stelemI | stelemI1
  | stelemI2 | stelemI4 | stelemI8 | stelemR4 | stelemR8 | stelemRef | ldelem | stelem | unboxAny
  | convOvfI1 | convOvfU1 | convOvfI2 | convOvfU2 | convOvfI4 | convOvfU4 | convOvfI8 | convOvfU8
  | refanyval | ckfinite | mkrefany | ldtoken | convU2 | convU1 | convI | convOvfI | convOvfU
  | addOvf | addOvfUn | mulOvf | mulOvfUn | subOvf | subOvfUn | endfinally | leave | leaveS
  | stindI | convU | arglist | ceq | cgt | cgtUn | clt | cltUn | ldftn | ldvirtftn | ldarg
  | ldarga | starg | ldloc | ldloca | stloc | localloc | endfilter | unaligned | volatile | tail
  | initobj | constrained | cpblk | initblk | noCheck | rethrow | sizeof | refanytype | readonly
  deriving DecidableEq, Repr, Inhabited

/-- The kind of operand that an opcode carries behind it. -/
inductive OperandKind where
  | none
  /-- A 32-bit branch displacement. -/
  | branch
  /-- An 8-bit branch displacement. -/
  | shortBranch
  | field
  | method
  | type
  | token
  | signature
  | int32
  | int64
  | int8
  | float64
  | float32
  | string
  /-- A counted table of 32-bit branch displacements. -/
  | switch
  /-- The 16-bit index of a local variable. -/
  | localSlot
  /-- The 8-bit index of a local variable. -/
  | shortLocalSlot
  /-- The 16-bit index of an argument. -/
  | argumentSlot
  /-- The 8-bit index of an argument. -/
  | shortArgumentSlot
  deriving DecidableEq, Repr

namespace OperandKind

/-- Every kind of operand. -/
def all : List OperandKind :=
  [.none, .branch, .shortBranch, .field, .method, .type, .token, .signature, .int32, .int64,
    .int8, .float64, .float32, .string, .switch, .localSlot, .shortLocalSlot, .argumentSlot,
    .shortArgumentSlot]

/-- The name of the kind in the language standard. -/
def name : OperandKind → String
  | .none => "InlineNone"
  | .branch => "InlineBrTarget"
  | .shortBranch => "ShortInlineBrTarget"
  | .field => "InlineField"
  | .method => "InlineMethod"
  | .type => "InlineType"
  | .token => "InlineTok"
  | .signature => "InlineSig"
  | .int32 => "InlineI"
  | .int64 => "InlineI8"
  | .int8 => "ShortInlineI"
  | .float64 => "InlineR"
  | .float32 => "ShortInlineR"
  | .string => "InlineString"
  | .switch => "InlineSwitch"
  | .localSlot => "InlineVar"
  | .shortLocalSlot => "ShortInlineVar"
  | .argumentSlot => "InlineArg"
  | .shortArgumentSlot => "ShortInlineArg"

/-- Number of bytes that an operand of the kind occupies. A switch table has no fixed width; its
    number here is the width of the count in front of the table. -/
def baseWidth : OperandKind → Nat
  | .none => 0
  | .shortBranch | .int8 | .shortLocalSlot | .shortArgumentSlot => 1
  | .localSlot | .argumentSlot => 2
  | .branch | .field | .method | .type | .token | .signature | .int32 | .float32 | .string
  | .switch => 4
  | .int64 | .float64 => 8

end OperandKind

/-- How many evaluation stack slots an opcode takes, or leaves. -/
inductive SlotCount where
  /-- Always this many. -/
  | exactly (count : Nat)
  /-- As many as a signature says: that of the callee or of the enclosing method. -/
  | bySignature
  /-- The whole evaluation stack. -/
  | everything
  deriving DecidableEq, Repr

/-- How an opcode passes control on. -/
inductive Flow where
  /-- To the next instruction. -/
  | next
  /-- Always to the target. -/
  | branch
  /-- To the target or to the next instruction. -/
  | condBranch
  /-- To the next instruction, after a call. -/
  | call
  /-- To the next instruction, after a stop in a debugger. -/
  | pause
  /-- To the next instruction, which the opcode modifies. -/
  | modifier
  /-- Out of the method, the filter or the finally or fault handler. -/
  | leave
  /-- To an exception handler. -/
  | raise
  deriving DecidableEq, Repr

namespace Flow

/-- The name of the flow in the language standard. -/
def name : Flow → String
  | .next => "Next"
  | .branch => "Branch"
  | .condBranch => "CondBranch"
  | .call => "Call"
  | .pause => "Break"
  | .modifier => "Meta"
  | .leave => "Return"
  | .raise => "Throw"

/-- Can execution reach the instruction behind one with this flow? -/
def fallsThrough : Flow → Bool
  | .branch | .leave | .raise => false
  | .next | .condBranch | .call | .pause | .modifier => true

end Flow

end Devirt

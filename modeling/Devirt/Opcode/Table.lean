import Devirt.Opcode.Basic

/-!
# Opcode Table

What the language standard says about each opcode: its encoding, its mnemonic, its operand, its
effect on the evaluation stack and its control flow. Everything else that the library knows about
an opcode is read off this table.
-/

namespace Devirt

/-- A row of the opcode table. -/
structure OpcodeInfo where
  /-- Does the encoding start with the escape byte `0xfe`? -/
  isExtended : Bool
  /-- The last byte of the encoding. -/
  byte : UInt8
  mnemonic : String
  operand : OperandKind
  pops : SlotCount
  pushes : SlotCount
  flow : Flow
  deriving Repr

namespace OpcodeInfo

/-- A row for an opcode of one byte. -/
def basic : UInt8 → String → OperandKind → SlotCount → SlotCount → Flow → OpcodeInfo :=
  OpcodeInfo.mk false

/-- A row for an opcode of two bytes, the first of which is the escape byte. -/
def extended : UInt8 → String → OperandKind → SlotCount → SlotCount → Flow → OpcodeInfo :=
  OpcodeInfo.mk true

end OpcodeInfo

namespace Opcode

open OpcodeInfo (basic extended)

/-- The row of an opcode. -/
def info : Opcode → OpcodeInfo
  | .nop => basic 0x00 "nop" .none (.exactly 0) (.exactly 0) .next
  | .breakpoint => basic 0x01 "break" .none (.exactly 0) (.exactly 0) .pause
  | .ldarg0 => basic 0x02 "ldarg.0" .none (.exactly 0) (.exactly 1) .next
  | .ldarg1 => basic 0x03 "ldarg.1" .none (.exactly 0) (.exactly 1) .next
  | .ldarg2 => basic 0x04 "ldarg.2" .none (.exactly 0) (.exactly 1) .next
  | .ldarg3 => basic 0x05 "ldarg.3" .none (.exactly 0) (.exactly 1) .next
  | .ldloc0 => basic 0x06 "ldloc.0" .none (.exactly 0) (.exactly 1) .next
  | .ldloc1 => basic 0x07 "ldloc.1" .none (.exactly 0) (.exactly 1) .next
  | .ldloc2 => basic 0x08 "ldloc.2" .none (.exactly 0) (.exactly 1) .next
  | .ldloc3 => basic 0x09 "ldloc.3" .none (.exactly 0) (.exactly 1) .next
  | .stloc0 => basic 0x0a "stloc.0" .none (.exactly 1) (.exactly 0) .next
  | .stloc1 => basic 0x0b "stloc.1" .none (.exactly 1) (.exactly 0) .next
  | .stloc2 => basic 0x0c "stloc.2" .none (.exactly 1) (.exactly 0) .next
  | .stloc3 => basic 0x0d "stloc.3" .none (.exactly 1) (.exactly 0) .next
  | .ldargS => basic 0x0e "ldarg.s" .shortArgumentSlot (.exactly 0) (.exactly 1) .next
  | .ldargaS => basic 0x0f "ldarga.s" .shortArgumentSlot (.exactly 0) (.exactly 1) .next
  | .stargS => basic 0x10 "starg.s" .shortArgumentSlot (.exactly 1) (.exactly 0) .next
  | .ldlocS => basic 0x11 "ldloc.s" .shortLocalSlot (.exactly 0) (.exactly 1) .next
  | .ldlocaS => basic 0x12 "ldloca.s" .shortLocalSlot (.exactly 0) (.exactly 1) .next
  | .stlocS => basic 0x13 "stloc.s" .shortLocalSlot (.exactly 1) (.exactly 0) .next
  | .ldnull => basic 0x14 "ldnull" .none (.exactly 0) (.exactly 1) .next
  | .ldcI4M1 => basic 0x15 "ldc.i4.m1" .none (.exactly 0) (.exactly 1) .next
  | .ldcI40 => basic 0x16 "ldc.i4.0" .none (.exactly 0) (.exactly 1) .next
  | .ldcI41 => basic 0x17 "ldc.i4.1" .none (.exactly 0) (.exactly 1) .next
  | .ldcI42 => basic 0x18 "ldc.i4.2" .none (.exactly 0) (.exactly 1) .next
  | .ldcI43 => basic 0x19 "ldc.i4.3" .none (.exactly 0) (.exactly 1) .next
  | .ldcI44 => basic 0x1a "ldc.i4.4" .none (.exactly 0) (.exactly 1) .next
  | .ldcI45 => basic 0x1b "ldc.i4.5" .none (.exactly 0) (.exactly 1) .next
  | .ldcI46 => basic 0x1c "ldc.i4.6" .none (.exactly 0) (.exactly 1) .next
  | .ldcI47 => basic 0x1d "ldc.i4.7" .none (.exactly 0) (.exactly 1) .next
  | .ldcI48 => basic 0x1e "ldc.i4.8" .none (.exactly 0) (.exactly 1) .next
  | .ldcI4S => basic 0x1f "ldc.i4.s" .int8 (.exactly 0) (.exactly 1) .next
  | .ldcI4 => basic 0x20 "ldc.i4" .int32 (.exactly 0) (.exactly 1) .next
  | .ldcI8 => basic 0x21 "ldc.i8" .int64 (.exactly 0) (.exactly 1) .next
  | .ldcR4 => basic 0x22 "ldc.r4" .float32 (.exactly 0) (.exactly 1) .next
  | .ldcR8 => basic 0x23 "ldc.r8" .float64 (.exactly 0) (.exactly 1) .next
  | .dup => basic 0x25 "dup" .none (.exactly 1) (.exactly 2) .next
  | .pop => basic 0x26 "pop" .none (.exactly 1) (.exactly 0) .next
  | .jmp => basic 0x27 "jmp" .method (.exactly 0) (.exactly 0) .call
  | .call => basic 0x28 "call" .method .bySignature .bySignature .call
  | .calli => basic 0x29 "calli" .signature .bySignature .bySignature .call
  | .ret => basic 0x2a "ret" .none .bySignature (.exactly 0) .leave
  | .brS => basic 0x2b "br.s" .shortBranch (.exactly 0) (.exactly 0) .branch
  | .brfalseS => basic 0x2c "brfalse.s" .shortBranch (.exactly 1) (.exactly 0) .condBranch
  | .brtrueS => basic 0x2d "brtrue.s" .shortBranch (.exactly 1) (.exactly 0) .condBranch
  | .beqS => basic 0x2e "beq.s" .shortBranch (.exactly 2) (.exactly 0) .condBranch
  | .bgeS => basic 0x2f "bge.s" .shortBranch (.exactly 2) (.exactly 0) .condBranch
  | .bgtS => basic 0x30 "bgt.s" .shortBranch (.exactly 2) (.exactly 0) .condBranch
  | .bleS => basic 0x31 "ble.s" .shortBranch (.exactly 2) (.exactly 0) .condBranch
  | .bltS => basic 0x32 "blt.s" .shortBranch (.exactly 2) (.exactly 0) .condBranch
  | .bneUnS => basic 0x33 "bne.un.s" .shortBranch (.exactly 2) (.exactly 0) .condBranch
  | .bgeUnS => basic 0x34 "bge.un.s" .shortBranch (.exactly 2) (.exactly 0) .condBranch
  | .bgtUnS => basic 0x35 "bgt.un.s" .shortBranch (.exactly 2) (.exactly 0) .condBranch
  | .bleUnS => basic 0x36 "ble.un.s" .shortBranch (.exactly 2) (.exactly 0) .condBranch
  | .bltUnS => basic 0x37 "blt.un.s" .shortBranch (.exactly 2) (.exactly 0) .condBranch
  | .br => basic 0x38 "br" .branch (.exactly 0) (.exactly 0) .branch
  | .brfalse => basic 0x39 "brfalse" .branch (.exactly 1) (.exactly 0) .condBranch
  | .brtrue => basic 0x3a "brtrue" .branch (.exactly 1) (.exactly 0) .condBranch
  | .beq => basic 0x3b "beq" .branch (.exactly 2) (.exactly 0) .condBranch
  | .bge => basic 0x3c "bge" .branch (.exactly 2) (.exactly 0) .condBranch
  | .bgt => basic 0x3d "bgt" .branch (.exactly 2) (.exactly 0) .condBranch
  | .ble => basic 0x3e "ble" .branch (.exactly 2) (.exactly 0) .condBranch
  | .blt => basic 0x3f "blt" .branch (.exactly 2) (.exactly 0) .condBranch
  | .bneUn => basic 0x40 "bne.un" .branch (.exactly 2) (.exactly 0) .condBranch
  | .bgeUn => basic 0x41 "bge.un" .branch (.exactly 2) (.exactly 0) .condBranch
  | .bgtUn => basic 0x42 "bgt.un" .branch (.exactly 2) (.exactly 0) .condBranch
  | .bleUn => basic 0x43 "ble.un" .branch (.exactly 2) (.exactly 0) .condBranch
  | .bltUn => basic 0x44 "blt.un" .branch (.exactly 2) (.exactly 0) .condBranch
  | .switch => basic 0x45 "switch" .switch (.exactly 1) (.exactly 0) .condBranch
  | .ldindI1 => basic 0x46 "ldind.i1" .none (.exactly 1) (.exactly 1) .next
  | .ldindU1 => basic 0x47 "ldind.u1" .none (.exactly 1) (.exactly 1) .next
  | .ldindI2 => basic 0x48 "ldind.i2" .none (.exactly 1) (.exactly 1) .next
  | .ldindU2 => basic 0x49 "ldind.u2" .none (.exactly 1) (.exactly 1) .next
  | .ldindI4 => basic 0x4a "ldind.i4" .none (.exactly 1) (.exactly 1) .next
  | .ldindU4 => basic 0x4b "ldind.u4" .none (.exactly 1) (.exactly 1) .next
  | .ldindI8 => basic 0x4c "ldind.i8" .none (.exactly 1) (.exactly 1) .next
  | .ldindI => basic 0x4d "ldind.i" .none (.exactly 1) (.exactly 1) .next
  | .ldindR4 => basic 0x4e "ldind.r4" .none (.exactly 1) (.exactly 1) .next
  | .ldindR8 => basic 0x4f "ldind.r8" .none (.exactly 1) (.exactly 1) .next
  | .ldindRef => basic 0x50 "ldind.ref" .none (.exactly 1) (.exactly 1) .next
  | .stindRef => basic 0x51 "stind.ref" .none (.exactly 2) (.exactly 0) .next
  | .stindI1 => basic 0x52 "stind.i1" .none (.exactly 2) (.exactly 0) .next
  | .stindI2 => basic 0x53 "stind.i2" .none (.exactly 2) (.exactly 0) .next
  | .stindI4 => basic 0x54 "stind.i4" .none (.exactly 2) (.exactly 0) .next
  | .stindI8 => basic 0x55 "stind.i8" .none (.exactly 2) (.exactly 0) .next
  | .stindR4 => basic 0x56 "stind.r4" .none (.exactly 2) (.exactly 0) .next
  | .stindR8 => basic 0x57 "stind.r8" .none (.exactly 2) (.exactly 0) .next
  | .add => basic 0x58 "add" .none (.exactly 2) (.exactly 1) .next
  | .sub => basic 0x59 "sub" .none (.exactly 2) (.exactly 1) .next
  | .mul => basic 0x5a "mul" .none (.exactly 2) (.exactly 1) .next
  | .div => basic 0x5b "div" .none (.exactly 2) (.exactly 1) .next
  | .divUn => basic 0x5c "div.un" .none (.exactly 2) (.exactly 1) .next
  | .rem => basic 0x5d "rem" .none (.exactly 2) (.exactly 1) .next
  | .remUn => basic 0x5e "rem.un" .none (.exactly 2) (.exactly 1) .next
  | .and => basic 0x5f "and" .none (.exactly 2) (.exactly 1) .next
  | .or => basic 0x60 "or" .none (.exactly 2) (.exactly 1) .next
  | .xor => basic 0x61 "xor" .none (.exactly 2) (.exactly 1) .next
  | .shl => basic 0x62 "shl" .none (.exactly 2) (.exactly 1) .next
  | .shr => basic 0x63 "shr" .none (.exactly 2) (.exactly 1) .next
  | .shrUn => basic 0x64 "shr.un" .none (.exactly 2) (.exactly 1) .next
  | .neg => basic 0x65 "neg" .none (.exactly 1) (.exactly 1) .next
  | .not => basic 0x66 "not" .none (.exactly 1) (.exactly 1) .next
  | .convI1 => basic 0x67 "conv.i1" .none (.exactly 1) (.exactly 1) .next
  | .convI2 => basic 0x68 "conv.i2" .none (.exactly 1) (.exactly 1) .next
  | .convI4 => basic 0x69 "conv.i4" .none (.exactly 1) (.exactly 1) .next
  | .convI8 => basic 0x6a "conv.i8" .none (.exactly 1) (.exactly 1) .next
  | .convR4 => basic 0x6b "conv.r4" .none (.exactly 1) (.exactly 1) .next
  | .convR8 => basic 0x6c "conv.r8" .none (.exactly 1) (.exactly 1) .next
  | .convU4 => basic 0x6d "conv.u4" .none (.exactly 1) (.exactly 1) .next
  | .convU8 => basic 0x6e "conv.u8" .none (.exactly 1) (.exactly 1) .next
  | .callvirt => basic 0x6f "callvirt" .method .bySignature .bySignature .call
  | .cpobj => basic 0x70 "cpobj" .type (.exactly 2) (.exactly 0) .next
  | .ldobj => basic 0x71 "ldobj" .type (.exactly 1) (.exactly 1) .next
  | .ldstr => basic 0x72 "ldstr" .string (.exactly 0) (.exactly 1) .next
  | .newobj => basic 0x73 "newobj" .method .bySignature (.exactly 1) .call
  | .castclass => basic 0x74 "castclass" .type (.exactly 1) (.exactly 1) .next
  | .isinst => basic 0x75 "isinst" .type (.exactly 1) (.exactly 1) .next
  | .convRUn => basic 0x76 "conv.r.un" .none (.exactly 1) (.exactly 1) .next
  | .unbox => basic 0x79 "unbox" .type (.exactly 1) (.exactly 1) .next
  | .throw => basic 0x7a "throw" .none (.exactly 1) (.exactly 0) .raise
  | .ldfld => basic 0x7b "ldfld" .field (.exactly 1) (.exactly 1) .next
  | .ldflda => basic 0x7c "ldflda" .field (.exactly 1) (.exactly 1) .next
  | .stfld => basic 0x7d "stfld" .field (.exactly 2) (.exactly 0) .next
  | .ldsfld => basic 0x7e "ldsfld" .field (.exactly 0) (.exactly 1) .next
  | .ldsflda => basic 0x7f "ldsflda" .field (.exactly 0) (.exactly 1) .next
  | .stsfld => basic 0x80 "stsfld" .field (.exactly 1) (.exactly 0) .next
  | .stobj => basic 0x81 "stobj" .type (.exactly 2) (.exactly 0) .next
  | .convOvfI1Un => basic 0x82 "conv.ovf.i1.un" .none (.exactly 1) (.exactly 1) .next
  | .convOvfI2Un => basic 0x83 "conv.ovf.i2.un" .none (.exactly 1) (.exactly 1) .next
  | .convOvfI4Un => basic 0x84 "conv.ovf.i4.un" .none (.exactly 1) (.exactly 1) .next
  | .convOvfI8Un => basic 0x85 "conv.ovf.i8.un" .none (.exactly 1) (.exactly 1) .next
  | .convOvfU1Un => basic 0x86 "conv.ovf.u1.un" .none (.exactly 1) (.exactly 1) .next
  | .convOvfU2Un => basic 0x87 "conv.ovf.u2.un" .none (.exactly 1) (.exactly 1) .next
  | .convOvfU4Un => basic 0x88 "conv.ovf.u4.un" .none (.exactly 1) (.exactly 1) .next
  | .convOvfU8Un => basic 0x89 "conv.ovf.u8.un" .none (.exactly 1) (.exactly 1) .next
  | .convOvfIUn => basic 0x8a "conv.ovf.i.un" .none (.exactly 1) (.exactly 1) .next
  | .convOvfUUn => basic 0x8b "conv.ovf.u.un" .none (.exactly 1) (.exactly 1) .next
  | .box => basic 0x8c "box" .type (.exactly 1) (.exactly 1) .next
  | .newarr => basic 0x8d "newarr" .type (.exactly 1) (.exactly 1) .next
  | .ldlen => basic 0x8e "ldlen" .none (.exactly 1) (.exactly 1) .next
  | .ldelema => basic 0x8f "ldelema" .type (.exactly 2) (.exactly 1) .next
  | .ldelemI1 => basic 0x90 "ldelem.i1" .none (.exactly 2) (.exactly 1) .next
  | .ldelemU1 => basic 0x91 "ldelem.u1" .none (.exactly 2) (.exactly 1) .next
  | .ldelemI2 => basic 0x92 "ldelem.i2" .none (.exactly 2) (.exactly 1) .next
  | .ldelemU2 => basic 0x93 "ldelem.u2" .none (.exactly 2) (.exactly 1) .next
  | .ldelemI4 => basic 0x94 "ldelem.i4" .none (.exactly 2) (.exactly 1) .next
  | .ldelemU4 => basic 0x95 "ldelem.u4" .none (.exactly 2) (.exactly 1) .next
  | .ldelemI8 => basic 0x96 "ldelem.i8" .none (.exactly 2) (.exactly 1) .next
  | .ldelemI => basic 0x97 "ldelem.i" .none (.exactly 2) (.exactly 1) .next
  | .ldelemR4 => basic 0x98 "ldelem.r4" .none (.exactly 2) (.exactly 1) .next
  | .ldelemR8 => basic 0x99 "ldelem.r8" .none (.exactly 2) (.exactly 1) .next
  | .ldelemRef => basic 0x9a "ldelem.ref" .none (.exactly 2) (.exactly 1) .next
  | .stelemI => basic 0x9b "stelem.i" .none (.exactly 3) (.exactly 0) .next
  | .stelemI1 => basic 0x9c "stelem.i1" .none (.exactly 3) (.exactly 0) .next
  | .stelemI2 => basic 0x9d "stelem.i2" .none (.exactly 3) (.exactly 0) .next
  | .stelemI4 => basic 0x9e "stelem.i4" .none (.exactly 3) (.exactly 0) .next
  | .stelemI8 => basic 0x9f "stelem.i8" .none (.exactly 3) (.exactly 0) .next
  | .stelemR4 => basic 0xa0 "stelem.r4" .none (.exactly 3) (.exactly 0) .next
  | .stelemR8 => basic 0xa1 "stelem.r8" .none (.exactly 3) (.exactly 0) .next
  | .stelemRef => basic 0xa2 "stelem.ref" .none (.exactly 3) (.exactly 0) .next
  | .ldelem => basic 0xa3 "ldelem" .type (.exactly 2) (.exactly 1) .next
  | .stelem => basic 0xa4 "stelem" .type (.exactly 3) (.exactly 0) .next
  | .unboxAny => basic 0xa5 "unbox.any" .type (.exactly 1) (.exactly 1) .next
  | .convOvfI1 => basic 0xb3 "conv.ovf.i1" .none (.exactly 1) (.exactly 1) .next
  | .convOvfU1 => basic 0xb4 "conv.ovf.u1" .none (.exactly 1) (.exactly 1) .next
  | .convOvfI2 => basic 0xb5 "conv.ovf.i2" .none (.exactly 1) (.exactly 1) .next
  | .convOvfU2 => basic 0xb6 "conv.ovf.u2" .none (.exactly 1) (.exactly 1) .next
  | .convOvfI4 => basic 0xb7 "conv.ovf.i4" .none (.exactly 1) (.exactly 1) .next
  | .convOvfU4 => basic 0xb8 "conv.ovf.u4" .none (.exactly 1) (.exactly 1) .next
  | .convOvfI8 => basic 0xb9 "conv.ovf.i8" .none (.exactly 1) (.exactly 1) .next
  | .convOvfU8 => basic 0xba "conv.ovf.u8" .none (.exactly 1) (.exactly 1) .next
  | .refanyval => basic 0xc2 "refanyval" .type (.exactly 1) (.exactly 1) .next
  | .ckfinite => basic 0xc3 "ckfinite" .none (.exactly 1) (.exactly 1) .next
  | .mkrefany => basic 0xc6 "mkrefany" .type (.exactly 1) (.exactly 1) .next
  | .ldtoken => basic 0xd0 "ldtoken" .token (.exactly 0) (.exactly 1) .next
  | .convU2 => basic 0xd1 "conv.u2" .none (.exactly 1) (.exactly 1) .next
  | .convU1 => basic 0xd2 "conv.u1" .none (.exactly 1) (.exactly 1) .next
  | .convI => basic 0xd3 "conv.i" .none (.exactly 1) (.exactly 1) .next
  | .convOvfI => basic 0xd4 "conv.ovf.i" .none (.exactly 1) (.exactly 1) .next
  | .convOvfU => basic 0xd5 "conv.ovf.u" .none (.exactly 1) (.exactly 1) .next
  | .addOvf => basic 0xd6 "add.ovf" .none (.exactly 2) (.exactly 1) .next
  | .addOvfUn => basic 0xd7 "add.ovf.un" .none (.exactly 2) (.exactly 1) .next
  | .mulOvf => basic 0xd8 "mul.ovf" .none (.exactly 2) (.exactly 1) .next
  | .mulOvfUn => basic 0xd9 "mul.ovf.un" .none (.exactly 2) (.exactly 1) .next
  | .subOvf => basic 0xda "sub.ovf" .none (.exactly 2) (.exactly 1) .next
  | .subOvfUn => basic 0xdb "sub.ovf.un" .none (.exactly 2) (.exactly 1) .next
  | .endfinally => basic 0xdc "endfinally" .none .everything (.exactly 0) .leave
  | .leave => basic 0xdd "leave" .branch .everything (.exactly 0) .branch
  | .leaveS => basic 0xde "leave.s" .shortBranch .everything (.exactly 0) .branch
  | .stindI => basic 0xdf "stind.i" .none (.exactly 2) (.exactly 0) .next
  | .convU => basic 0xe0 "conv.u" .none (.exactly 1) (.exactly 1) .next
  | .arglist => extended 0x00 "arglist" .none (.exactly 0) (.exactly 1) .next
  | .ceq => extended 0x01 "ceq" .none (.exactly 2) (.exactly 1) .next
  | .cgt => extended 0x02 "cgt" .none (.exactly 2) (.exactly 1) .next
  | .cgtUn => extended 0x03 "cgt.un" .none (.exactly 2) (.exactly 1) .next
  | .clt => extended 0x04 "clt" .none (.exactly 2) (.exactly 1) .next
  | .cltUn => extended 0x05 "clt.un" .none (.exactly 2) (.exactly 1) .next
  | .ldftn => extended 0x06 "ldftn" .method (.exactly 0) (.exactly 1) .next
  | .ldvirtftn => extended 0x07 "ldvirtftn" .method (.exactly 1) (.exactly 1) .next
  | .ldarg => extended 0x09 "ldarg" .argumentSlot (.exactly 0) (.exactly 1) .next
  | .ldarga => extended 0x0a "ldarga" .argumentSlot (.exactly 0) (.exactly 1) .next
  | .starg => extended 0x0b "starg" .argumentSlot (.exactly 1) (.exactly 0) .next
  | .ldloc => extended 0x0c "ldloc" .localSlot (.exactly 0) (.exactly 1) .next
  | .ldloca => extended 0x0d "ldloca" .localSlot (.exactly 0) (.exactly 1) .next
  | .stloc => extended 0x0e "stloc" .localSlot (.exactly 1) (.exactly 0) .next
  | .localloc => extended 0x0f "localloc" .none (.exactly 1) (.exactly 1) .next
  | .endfilter => extended 0x11 "endfilter" .none (.exactly 1) (.exactly 0) .leave
  | .unaligned => extended 0x12 "unaligned." .int8 (.exactly 0) (.exactly 0) .modifier
  | .volatile => extended 0x13 "volatile." .none (.exactly 0) (.exactly 0) .modifier
  | .tail => extended 0x14 "tail." .none (.exactly 0) (.exactly 0) .modifier
  | .initobj => extended 0x15 "initobj" .type (.exactly 1) (.exactly 0) .next
  | .constrained => extended 0x16 "constrained." .type (.exactly 0) (.exactly 0) .modifier
  | .cpblk => extended 0x17 "cpblk" .none (.exactly 3) (.exactly 0) .next
  | .initblk => extended 0x18 "initblk" .none (.exactly 3) (.exactly 0) .next
  | .noCheck => extended 0x19 "no." .int8 (.exactly 0) (.exactly 0) .modifier
  | .rethrow => extended 0x1a "rethrow" .none (.exactly 0) (.exactly 0) .raise
  | .sizeof => extended 0x1c "sizeof" .type (.exactly 0) (.exactly 1) .next
  | .refanytype => extended 0x1d "refanytype" .none (.exactly 1) (.exactly 1) .next
  | .readonly => extended 0x1e "readonly." .none (.exactly 0) (.exactly 0) .modifier

/-- Every opcode, in the order of the encodings. -/
def all : List Opcode := [
  .nop, .breakpoint, .ldarg0, .ldarg1, .ldarg2, .ldarg3, .ldloc0, .ldloc1, .ldloc2, .ldloc3,
  .stloc0, .stloc1, .stloc2, .stloc3, .ldargS, .ldargaS, .stargS, .ldlocS, .ldlocaS, .stlocS,
  .ldnull, .ldcI4M1, .ldcI40, .ldcI41, .ldcI42, .ldcI43, .ldcI44, .ldcI45, .ldcI46, .ldcI47,
  .ldcI48, .ldcI4S, .ldcI4, .ldcI8, .ldcR4, .ldcR8, .dup, .pop, .jmp, .call, .calli, .ret, .brS,
  .brfalseS, .brtrueS, .beqS, .bgeS, .bgtS, .bleS, .bltS, .bneUnS, .bgeUnS, .bgtUnS, .bleUnS,
  .bltUnS, .br, .brfalse, .brtrue, .beq, .bge, .bgt, .ble, .blt, .bneUn, .bgeUn, .bgtUn, .bleUn,
  .bltUn, .switch, .ldindI1, .ldindU1, .ldindI2, .ldindU2, .ldindI4, .ldindU4, .ldindI8, .ldindI,
  .ldindR4, .ldindR8, .ldindRef, .stindRef, .stindI1, .stindI2, .stindI4, .stindI8, .stindR4,
  .stindR8, .add, .sub, .mul, .div, .divUn, .rem, .remUn, .and, .or, .xor, .shl, .shr, .shrUn,
  .neg, .not, .convI1, .convI2, .convI4, .convI8, .convR4, .convR8, .convU4, .convU8, .callvirt,
  .cpobj, .ldobj, .ldstr, .newobj, .castclass, .isinst, .convRUn, .unbox, .throw, .ldfld, .ldflda,
  .stfld, .ldsfld, .ldsflda, .stsfld, .stobj, .convOvfI1Un, .convOvfI2Un, .convOvfI4Un,
  .convOvfI8Un, .convOvfU1Un, .convOvfU2Un, .convOvfU4Un, .convOvfU8Un, .convOvfIUn, .convOvfUUn,
  .box, .newarr, .ldlen, .ldelema, .ldelemI1, .ldelemU1, .ldelemI2, .ldelemU2, .ldelemI4,
  .ldelemU4, .ldelemI8, .ldelemI, .ldelemR4, .ldelemR8, .ldelemRef, .stelemI, .stelemI1,
  .stelemI2, .stelemI4, .stelemI8, .stelemR4, .stelemR8, .stelemRef, .ldelem, .stelem, .unboxAny,
  .convOvfI1, .convOvfU1, .convOvfI2, .convOvfU2, .convOvfI4, .convOvfU4, .convOvfI8, .convOvfU8,
  .refanyval, .ckfinite, .mkrefany, .ldtoken, .convU2, .convU1, .convI, .convOvfI, .convOvfU,
  .addOvf, .addOvfUn, .mulOvf, .mulOvfUn, .subOvf, .subOvfUn, .endfinally, .leave, .leaveS,
  .stindI, .convU, .arglist, .ceq, .cgt, .cgtUn, .clt, .cltUn, .ldftn, .ldvirtftn, .ldarg,
  .ldarga, .starg, .ldloc, .ldloca, .stloc, .localloc, .endfilter, .unaligned, .volatile, .tail,
  .initobj, .constrained, .cpblk, .initblk, .noCheck, .rethrow, .sizeof, .refanytype, .readonly]

/-- The list of opcodes leaves none out. -/
theorem contains_all (o : Opcode) : all.contains o = true := by
  cases o <;> rfl

/-! ## §1 Columns of the table -/

/-- The mnemonic in disassembly. -/
def mnemonic (o : Opcode) : String := o.info.mnemonic

/-- The kind of operand that the opcode carries. -/
def operandKind (o : Opcode) : OperandKind := o.info.operand

/-- Evaluation stack slots taken. -/
def pops (o : Opcode) : SlotCount := o.info.pops

/-- Evaluation stack slots left. -/
def pushes (o : Opcode) : SlotCount := o.info.pushes

/-- How control passes on. -/
def flow (o : Opcode) : Flow := o.info.flow

/-- Can execution reach the instruction behind one with this opcode? -/
def fallsThrough (o : Opcode) : Bool := o.flow.fallsThrough

/-! ## §2 Encoding -/

/-- The bytes of an opcode. -/
def encoding (o : Opcode) : List UInt8 :=
  if o.info.isExtended then [0xfe, o.info.byte] else [o.info.byte]

/-- The bytes of an opcode, read as one number with the first byte on top. -/
def value (o : Opcode) : Nat :=
  (if o.info.isExtended then 0xfe00 else 0) + o.info.byte.toNat

/-- Number of bytes of an opcode. -/
def size (o : Opcode) : Nat :=
  if o.info.isExtended then 2 else 1

theorem size_pos (o : Opcode) : 0 < o.size := by
  unfold size
  split <;> decide

@[simp] theorem length_encoding (o : Opcode) : o.encoding.length = o.size := by
  unfold encoding size
  split <;> rfl

/-! ## §3 Lookup by mnemonic -/

/-- The opcode with the given mnemonic. -/
def ofMnemonic? (mnemonic : String) : Option Opcode :=
  all.find? (·.mnemonic == mnemonic)

end Opcode

end Devirt

import Devirt.Body.Basic
import Devirt.Body.Error
import Devirt.Numeric.LittleEndian

/-!
# Exception Sections

The handlers of a body are encoded as one section behind the code: a header of four bytes that
holds the size of the section, then a clause of 24 bytes for each handler. A body without handlers
has no section.
-/

namespace Devirt

open Numeric (littleEndian)

/-- Number of bytes of a section for so many handlers. -/
def exceptionSectionSize (handlers : Nat) : Nat := 24 * handlers + 4

/-- The first byte of a section: a table of handlers, in the format with wide fields. -/
def exceptionSectionTag : UInt8 := 0x41

namespace Body

/-- The offset of a line, which has to fit in 32 bits. -/
def offsetField (b : Body) (label : Label) : Except BodyError Nat :=
  match b.offset? label with
  | none => .error (.unknownLine label)
  | some offset => if offset < 0x100000000 then .ok offset else .error (.codeTooLong offset)

/-- The number of bytes of a range. Its end is resolved before its start. -/
def lengthField (b : Body) (span : Span) : Except BodyError Nat := do
  let stop ← b.offsetField span.stop
  let start ← b.offsetField span.start
  if start ≤ stop then
    return stop - start
  else
    throw (.invertedRange span.start span.stop)

/-- The last field of a clause: where the filter starts, the token of the type caught, or zero. -/
def detailField (b : Body) (h : Handler) : Except BodyError Nat :=
  match h.kind, h.filterStart, h.catchType with
  | .filter, some start, _ => b.offsetField start
  | .typed, _, some t => .ok t.token.toNat
  | _, _, _ => .ok 0

/-- The clause of a handler: six fields of 32 bits. -/
def encodeHandler (b : Body) (h : Handler) : Except BodyError (List UInt8) := do
  let guardedStart ← b.offsetField h.guarded.start
  let guardedLength ← b.lengthField h.guarded
  let handlerStart ← b.offsetField h.handler.start
  let handlerLength ← b.lengthField h.handler
  let detail ← b.detailField h
  let fields :=
    [h.kind.clauseFlags, guardedStart, guardedLength, handlerStart, handlerLength, detail]
  return fields.flatMap (littleEndian 4)

/-- Encode the handlers of a body. The size of the section has to fit in 24 bits. -/
def encodeHandlers (b : Body) : Except BodyError (Array UInt8) :=
  if b.handlers.isEmpty then
    return #[]
  else
    let size := exceptionSectionSize b.handlers.size
    if size < 0x1000000 then
      -- the header, then the clauses
      b.handlers.foldlM (fun bytes h => do return bytes ++ (← b.encodeHandler h))
        (#[exceptionSectionTag] ++ littleEndian 3 size)
    else
      throw (.tooManyHandlers b.handlers.size)

end Body

end Devirt

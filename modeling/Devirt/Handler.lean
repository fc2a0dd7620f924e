import Devirt.Label
import Devirt.Member

/-!
# Exception Handlers

A handler protects a range of code. Its boundaries are labels; ranges include the line at their
start and exclude the line at their end.
-/

namespace Devirt

/-- The kinds of exception handlers. -/
inductive HandlerKind where
  /-- Catches the exceptions of a type. -/
  | typed
  /-- Catches the exceptions that a block of code accepts. -/
  | filter
  /-- Runs when an exception leaves the protected code. -/
  | fault
  /-- Runs whenever control leaves the protected code. -/
  | final
  deriving DecidableEq, Repr, Inhabited

namespace HandlerKind

/-- Every kind of handler. -/
def all : List HandlerKind := [.typed, .filter, .fault, .final]

/-- The keyword of a kind of handler, capitalised. -/
def name : HandlerKind → String
  | .typed => "Catch"
  | .filter => "Filter"
  | .fault => "Fault"
  | .final => "Finally"

/-- The number that stands for the kind in an encoded clause. -/
def clauseFlags : HandlerKind → Nat
  | .typed => 0
  | .filter => 1
  | .final => 2
  | .fault => 4

/-- Number of values on the evaluation stack when the handler starts: those that deal with one
    exception find it there. -/
def entryDepth : HandlerKind → Nat
  | .typed | .filter => 1
  | .fault | .final => 0

end HandlerKind

/-- A range of code. -/
structure Span where
  /-- The first line of the range. -/
  start : Label
  /-- The first line behind the range. -/
  stop : Label
  deriving DecidableEq, Repr, Inhabited

/-- A range is shown as a half-open interval. -/
def Span.text (s : Span) : String :=
  "[" ++ s.start.text ++ ", " ++ s.stop.text ++ ")"

/-- An exception handler. -/
structure Handler where
  kind : HandlerKind
  /-- The protected code. -/
  guarded : Span
  /-- Start of the block that decides, for a filter. -/
  filterStart : Option Label
  /-- The code of the handler itself. -/
  handler : Span
  /-- The type of exceptions caught, for a typed handler. -/
  catchType : Option TypeRef
  deriving DecidableEq, Repr, Inhabited

/-- The text of a handler: its kind, then its ranges, then the type that it catches. -/
def Handler.text (h : Handler) : String :=
  h.kind.name ++ " try " ++ h.guarded.text ++ " " ++
    (h.filterStart.elim "" fun start => "filter " ++ start.text ++ " ") ++
    "handler " ++ h.handler.text ++
    (h.catchType.elim "" fun t => " catching " ++ t.text)

end Devirt

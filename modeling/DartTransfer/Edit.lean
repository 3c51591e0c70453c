import DartTransfer.Text.Basic

/-!
# Edits

An edit replaces the bytes of a span; an empty span is an insertion. `Edit.applyAll` applies a batch
in one pass over the text: the spans, in order of position, have to lie in the text, to fall between
characters and not to overlap, and otherwise the first fault is reported and nothing is applied. An
insertion at the start of another span lands before that span's replacement, and insertions at one
position keep their order.
-/

namespace DartTransfer

/-- The bytes from `start` up to `stop`. -/
structure Span where
  start : Nat
  stop : Nat
  deriving DecidableEq, Repr

namespace Span

/-- The order of application: by start, then by end. -/
def before (a b : Span) : Bool := a.start < b.start || (a.start == b.start && a.stop ≤ b.stop)

def toText (s : Span) : Text := Text.ofNat s.start ++ ".." ++ Text.ofNat s.stop

def isIn (s : Span) (t : Text) : Bool := s.start ≤ s.stop && s.stop ≤ t.byteLength

def isCut (s : Span) (t : Text) : Bool := t.isBoundary s.start && t.isBoundary s.stop

end Span

def Text.slice (t : Text) (s : Span) : Text := takeBytes (s.stop - s.start) (dropBytes s.start t)

structure Edit where
  span : Span
  replacement : Text
  deriving DecidableEq, Repr

inductive EditFault
  | outside (span : Span) (length : Nat)
  | splitsCharacter (span : Span)
  | overlap (first second : Span)
  deriving DecidableEq, Repr

namespace EditFault

def message : EditFault → Text
  | outside s n => "range " ++ s.toText ++ " outside text of length " ++ Text.ofNat n
  | splitsCharacter s => "range " ++ s.toText ++ " splits a character"
  | overlap a b => "ranges " ++ a.toText ++ " and " ++ b.toText ++ " overlap"

end EditFault

namespace Edit

/-- An insertion at `position`. -/
def insertion (position : Nat) (t : Text) : Edit := ⟨⟨position, position⟩, t⟩

def insertInOrder (e : Edit) : List Edit → List Edit
  | [] => [e]
  | f :: es => if e.span.before f.span then e :: f :: es else f :: insertInOrder e es

/-- The batch in order of application; edits with the same span keep their order. -/
def inOrder (es : List Edit) : List Edit := es.foldr insertInOrder []

def spanFault? (t : Text) (e : Edit) : Option EditFault :=
  if !e.span.isIn t then some (.outside e.span t.byteLength)
  else if !e.span.isCut t then some (.splitsCharacter e.span)
  else none

/-- The first neighbours in the ordered batch that overlap. -/
def overlapFault? : List Edit → Option EditFault
  | e :: f :: es =>
    if f.span.start < e.span.stop then some (.overlap e.span f.span) else overlapFault? (f :: es)
  | _ => none

/-- Applies an ordered batch to `rest`, which is the text from `position` on. -/
def splice (position : Nat) (rest : Text) : List Edit → Text
  | [] => rest
  | e :: es =>
    Text.takeBytes (e.span.start - position) rest ++ e.replacement ++
      splice e.span.stop (Text.dropBytes (e.span.stop - position) rest) es

def applyAll (t : Text) (es : List Edit) : Except EditFault Text :=
  match ((inOrder es).findSome? (spanFault? t)).or (overlapFault? (inOrder es)) with
  | some fault => .error fault
  | none => .ok (splice 0 t (inOrder es))

end Edit

end DartTransfer

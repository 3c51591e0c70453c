import DartTransfer.Prompt
import DartTransfer.Text.Utf8

/-!
# Terminal sessions

A session is the input that is still unread and a screen that may refuse to be written to or
flushed, at all times or from one use to the next. A question is shown, one line is read, and an
answer that is refused brings the objection and the question again; the end of the input, a line
that is not UTF-8 or a failing screen leaves the question without answer. Each answer uses up a
line, so a session ends on every input.
-/

namespace DartTransfer

structure Session where
  input : Bytes
  /-- The texts that were shown, the last one first. -/
  shown : List Text := []
  canWrite : Bool := true
  canFlush : Bool := true
  /-- Whether the screen can be written to and flushed after its next uses, as long as that changes. -/
  changes : List (Bool × Bool) := []
  deriving DecidableEq, Repr

namespace Session

/-- The first line, its newline included, and the bytes after it. -/
def splitLine : Bytes → Bytes × Bytes
  | [] => ([], [])
  | b :: bs =>
    if b == 10 then ([b], bs)
    else
      let (line, rest) := splitLine bs
      (b :: line, rest)

theorem splitLine_append (bs : Bytes) : (splitLine bs).1 ++ (splitLine bs).2 = bs := by
  induction bs with
  | nil => rfl
  | cons b bs ih => rw [splitLine]; split <;> simp [ih]

variable (s : Session)

def screen : Text := s.shown.reverse.flatten

/-- The session after a use of the screen. -/
def used : Session :=
  match s.changes with
  | [] => s
  | (canWrite, canFlush) :: changes => { s with canWrite, canFlush, changes }

def display (t : Text) : Session := (if s.canWrite then { s with shown := t :: s.shown } else s).used

def displayLine (t : Text) : Session := s.display (t ++ ['\n'])

@[simp] theorem shown_used : s.used.shown = s.shown := by
  rw [used]; split <;> rfl

@[simp] theorem input_used : s.used.input = s.input := by
  rw [used]; split <;> rfl

theorem screen_display (t : Text) : (s.display t).screen = if s.canWrite then s.screen ++ t else s.screen := by
  simp only [display, screen, shown_used]
  split <;> simp

@[simp] theorem input_display (t : Text) : (s.display t).input = s.input := by
  rw [display, input_used]; split <;> rfl

@[simp] theorem input_displayLine (t : Text) : (s.displayLine t).input = s.input := input_display s _

/-- The next line, trimmed; one that is not UTF-8 is read but gives nothing. -/
def readLine : Option Text × Session :=
  let (line, rest) := splitLine s.input
  if line.isEmpty then (none, s) else ((Text.ofUtf8? line).map Text.trim, { s with input := rest })

/-- Shows a text and reads the line that answers it. -/
def askOnce (wording : Text) : Option Text × Session :=
  if s.canWrite && s.canFlush then (s.display wording).readLine else (none, s.display wording)

theorem input_length_of_readLine {s : Session} {a : Text} (h : s.readLine.1 = some a) :
    s.readLine.2.input.length < s.input.length := by
  simp only [readLine] at h ⊢
  split at h
  · simp at h
  · next hl =>
    rw [if_neg hl]
    have l := congrArg List.length (splitLine_append s.input)
    have : (splitLine s.input).1.length ≠ 0 := by simpa using hl
    simp at l ⊢
    omega

theorem input_length_of_askOnce {s : Session} {q a : Text} (h : (s.askOnce q).1 = some a) :
    (s.askOnce q).2.input.length < s.input.length := by
  simp only [askOnce] at h ⊢
  split at h
  · next hs => rw [if_pos hs]; simpa using input_length_of_readLine h
  · simp at h

/-- Asks until an answer is accepted or none comes. -/
def ask {α : Type} (q : Question α) (s : Session) : Option α × Session :=
  match _h : s.askOnce q.wording with
  | (none, s') => (none, s')
  | (some answer, s') =>
    match q.judge answer with
    | .ok a => (some a, s')
    | .error objection => ask q (s'.displayLine objection)
termination_by s.input.length
decreasing_by
  have := input_length_of_askOnce (s := s) (q := q.wording) (a := answer) (by rw [_h])
  rw [_h] at this
  simpa using this

def askStyle (choices : List KeyStyle) : Option KeyStyle × Session :=
  ask (.style choices) ((Question.menu choices).foldl displayLine s)

end Session

/-- Answers from a session. -/
def Prompter.terminal : Prompter (StateM Session) where
  suffix offer := Session.ask (.suffix offer)
  style choices := fun s => s.askStyle choices

end DartTransfer

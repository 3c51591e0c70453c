import DartTransfer.Generation
import DartTransfer.Settings

/-!
# Prompts

A run asks for what the settings leave open, in a fixed order and before it looks at the text; a
question that stays without answer stops it. A `Prompter` answers in whatever way its monad allows.
`Prompter.offered` takes the defaults, and `Question` is the wording of a question together with the
test of an answer.
-/

namespace DartTransfer

structure Prompter (m : Type → Type) where
  /-- A suffix, where the given one is offered. -/
  suffix : Text → m (Option Text)
  /-- A style out of the given ones. -/
  style : List KeyStyle → m (Option KeyStyle)

section

variable {m : Type → Type} [Monad m]

/-- Takes what is offered, without a question. -/
def Prompter.offered : Prompter m where
  suffix offer := pure (some offer)
  style _ := pure (some .asDeclared)

namespace Settings

def suffixFrom (p : Prompter m) (s : Settings) : m (Option Text) :=
  match s.suffix with
  | some t => pure (some t)
  | none => p.suffix s.defaultSuffix

def styleFrom (p : Prompter m) (s : Settings) : m (Option KeyStyle) :=
  match s.style with
  | some k => pure (some k)
  | none => p.style KeyStyle.all

/-- The options of a run: settings first, and the prompter for the rest. -/
def collect (p : Prompter m) (s : Settings) : m (Except Fault Options) := do
  match ← s.suffixFrom p with
  | none => return .error .suffixCancelled
  | some suffix =>
    match ← s.styleFrom p with
    | none => return .error .styleCancelled
    | some style => return .ok (s.options suffix style)

end Settings

/-- Checks that there is a text, collects the options and generates. -/
def run (p : Prompter m) (s : Settings) (target : Option Text) : m (Except Fault Generation) :=
  match target with
  | none => return .error .noTarget
  | some t => return (← s.collect p).bind (generate t)

end

/-! ### Questions -/

structure Question (α : Type) where
  wording : Text
  /-- The answer that a trimmed line stands for, or the objection to it. -/
  judge : Text → Except Text α

/-- A number in decimal digits, with or without a plus sign. -/
def number? (t : Text) : Option Nat :=
  let digits := match t with
    | '+' :: r => r
    | r => r
  if !digits.isEmpty && digits.all Char.isDigit then
    some (digits.foldl (fun n c => 10 * n + (c.toNat - '0'.toNat)) 0)
  else none

/-- The choice that an answer picks out, by its place in the list counted from one, or by its
label. -/
def pick? (choices : List KeyStyle) (answer : Text) : Option KeyStyle :=
  match number? answer with
  | some 0 => none
  | some (i + 1) => choices[i]?
  | none => (KeyStyle.ofLabel? answer).filter choices.contains

namespace Question

def suffix (offer : Text) : Question Text where
  wording := "Class name suffix [" ++ offer ++ "]: "
  judge answer :=
    if answer.isEmpty then .ok offer
    else if isIdentifierTail answer then .ok answer
    else .error "Suffix may contain only letters, digits, '_' or '$'."

def style (choices : List KeyStyle) : Question KeyStyle where
  wording := "Naming style [1-" ++ Text.ofNat choices.length ++ ", default " ++ KeyStyle.asDeclared.label ++ "]: "
  judge answer :=
    if answer.isEmpty then .ok .asDeclared
    else match pick? choices answer with
      | some k => .ok k
      | none => .error ("Unknown naming style: " ++ answer)

/-- The numbered list of choices that is shown ahead of the style question. -/
def menu (choices : List KeyStyle) : List Text :=
  choices.mapIdx fun i k => "  " ++ Text.ofNat (i + 1) ++ ") " ++ k.label

end Question

end DartTransfer

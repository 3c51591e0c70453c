import DartTransfer.Text.Case

/-!
# Key styles

The external key of a field is its name in one of five styles. Each conversion is a single pass that
knows one kind of word boundary: `_` before a lowercase letter, a lowercase letter before a capital,
or any `_`. The conversions look for ASCII letters only; the change of case is Unicode's.
-/

namespace DartTransfer

inductive KeyStyle
  | camel
  | snake
  | pascal
  | kebab
  | asDeclared
  deriving DecidableEq, Repr

namespace KeyStyle

/-- All styles, in the order in which they are offered. -/
def all : List KeyStyle := [camel, snake, pascal, kebab, asDeclared]

theorem mem_all (s : KeyStyle) : s ∈ all := by cases s <;> decide

def label : KeyStyle → Text
  | camel => "camelCase"
  | snake => "snake_case"
  | pascal => "PascalCase"
  | kebab => "kebab-case"
  | asDeclared => "original"

def ofLabel? (l : Text) : Option KeyStyle := all.find? (·.label == l)

theorem ofLabel?_label (s : KeyStyle) : ofLabel? s.label = some s := by cases s <;> decide

/-- An underscore before a lowercase letter goes and the letter becomes a capital. -/
def joinWords : Text → Text
  | '_' :: c :: t => if c.isLower then c.toUpper :: joinWords t else '_' :: joinWords (c :: t)
  | c :: t => c :: joinWords t
  | [] => []

/-- `sep` comes between a lowercase letter and a capital. -/
def splitWords (sep : Char) : Text → Text
  | c :: d :: t =>
    if c.isLower && d.isUpper then c :: sep :: splitWords sep (d :: t) else c :: splitWords sep (d :: t)
  | t => t

/-- The underscores go; the character after one becomes upper case, and so does the first if
`atStart`. -/
def capitalizeWords (atStart : Bool) : Text → Text
  | [] => []
  | c :: t =>
    if c == '_' then capitalizeWords true t
    else if atStart then upperOf c ++ capitalizeWords false t
    else c :: capitalizeWords false t

def convert (s : KeyStyle) (name : Text) : Text :=
  match s with
  | camel => joinWords name
  | snake => (splitWords '_' name).toLower
  | pascal => capitalizeWords true name
  | kebab => (splitWords '-' name).toLower
  | asDeclared => name

end KeyStyle

end DartTransfer

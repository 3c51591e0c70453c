import DartTransfer.Settings
import DartTransfer.Toml.Document

/-!
# Reading settings

The settings stand in the table `generation` of a TOML document, each under its own key or, if
`generation` is an array, in the order of `Settings.keys`. Keys of no setting are passed over,
values of a wrong type and numbers that cannot be read are not. A choice is given by its label, or
by a table with the label as its only key and nothing in it.
-/

namespace DartTransfer.Settings

open Toml (Value Entries)

/-- The key of the table with the settings. -/
def sectionKey : Text := "generation"

/-- The keys of the settings, in the order in which an array gives their values. -/
def keys : List Text :=
  ["suffix", "default_suffix", "naming_style", "discovery", "extraction", "nullability", "copy_with", "equality"]

def text? : Value → Option Text
  | .string t => some t
  | _ => none

def flag? : Value → Option Bool
  | .boolean b => some b
  | _ => none

/-- Whether the value is an array or a table with nothing in it. -/
def isHollow : Value → Bool
  | .array _ [] => true
  | .table _ [] => true
  | _ => false

def choice? {α : Type} (ofLabel? : Text → Option α) : Value → Option α
  | .string l => ofLabel? l
  | .table _ [(l, v)] => if isHollow v then ofLabel? l else none
  | _ => none

/-- The value of a key that may be absent. -/
def valueOr {α : Type} (default : α) (read : Value → Option α) (key : Text) (es : Entries) : Option α :=
  match es.lookup key with
  | none => some default
  | some v => read v

def ofEntries? (es : Entries) : Option Settings := do
  return {
    suffix := ← valueOr none (fun v => (text? v).map some) "suffix" es
    defaultSuffix := ← valueOr ("DTO" : Text) text? "default_suffix" es
    style := ← valueOr none (fun v => (choice? KeyStyle.ofLabel? v).map some) "naming_style" es
    discovery := ← valueOr .single (choice? Discovery.ofLabel?) "discovery" es
    extraction := ← valueOr .directiveAware (choice? Extraction.ofLabel?) "extraction" es
    nullability := ← valueOr .byConstructor (choice? Nullability.ofLabel?) "nullability" es
    copyWith := ← valueOr true flag? "copy_with" es
    equality := ← valueOr true flag? "equality" es }

/-- A date holds no setting, so it stands for a table without any. All values of a table are looked
at, and of an array those that have a key. -/
def ofSection? : Value → Option Settings
  | .table _ es => if Value.haveReadable es then ofEntries? es else none
  | .array _ vs => ofEntries? (keys.zip vs)
  | .date => some {}
  | _ => none

def ofDocument? (es : Entries) : Option Settings :=
  if Value.haveReadable (es.filter (·.1 != sectionKey)) then
    match es.lookup sectionKey with
    | none => some {}
    | some v => ofSection? v
  else none

/-- The settings that a file's text gives. -/
def read (t : Text) : Except SettingsFault Settings :=
  match Toml.document t with
  | .error fault => .error (.notToml fault)
  | .ok es =>
    match ofDocument? es with
    | none => .error .mistyped
    | some s => s.validate

end DartTransfer.Settings

import DartTransfer.Options

/-!
# Arguments

The grammar of the command line. A switch has a long name and perhaps a letter, and takes a value or
not; letters may be run together, a value may be attached to its switch, and after `--` everything
is an operand. Arguments are judged from left to right, so that a call for help counts unless
something before it is misused. `Request.parse?` gives what the arguments ask for, or `none` where
they are misused: an unknown switch, a repeated one, a value that is missing or makes no sense,
switches that exclude each other.
-/

namespace DartTransfer.CommandLine

structure Switch where
  long : Text
  letter : Option Char := none
  /-- The test of the value, for a switch that takes one. -/
  test : Option (Text → Bool) := none

inductive Item
  | given (long : Text) (value : Option Text)
  | operand (t : Text)
  /-- An unknown switch, or one whose value is missing or not wanted. -/
  | misfit
  deriving DecidableEq, Repr

namespace Item

def operand? : Item → Option Text
  | operand t => some t
  | _ => none

def names (long : Text) : Item → Bool
  | given l _ => l == long
  | _ => false

def valueOf? (long : Text) : Item → Option Text
  | given l v => if l == long then v else none
  | _ => none

end Item

def isValue (t : Text) : Bool := t.head? != some '-' || t == "-"

/-- The switches that a run of letters gives, and the one at its end that still waits for its
value. -/
def lettersOf (ss : List Switch) : Text → List Item × Option Switch
  | [] => ([], none)
  | c :: t =>
    match ss.find? (·.letter == some c) with
    | none => ([.misfit], none)
    | some s =>
      match s.test, t with
      | none, t =>
        let (is, waiting) := lettersOf ss t
        (.given s.long none :: is, waiting)
      | some _, [] => ([], some s)
      | some _, '=' :: v => ([.given s.long (some v)], none)
      | some _, v => ([.given s.long (some v)], none)

/-- The switch of a long name with what is attached to it, or the switch that waits for its
value. -/
def longOf (ss : List Switch) (t : Text) : List Item × Option Switch :=
  match ss.find? (·.long == t.takeWhile (· != '=')), t.dropWhile (· != '=') with
  | none, _ => ([.misfit], none)
  | some s, [] => if s.test.isSome then ([], some s) else ([.given s.long none], none)
  | some s, _ :: v => if s.test.isSome then ([.given s.long (some v)], none) else ([.misfit], none)

def itemsOf (ss : List Switch) : Text → List Item × Option Switch
  | '-' :: '-' :: t => longOf ss t
  | '-' :: c :: t => lettersOf ss (c :: t)
  | t => ([.operand t], none)

/-- The items from left to right, up to a switch that waits for its value in vain. -/
def scan (ss : List Switch) : List Text → List Item
  | [] => []
  | a :: rest =>
    if a == "--" then rest.map .operand
    else match itemsOf ss a, rest with
      | (is, none), rest => is ++ scan ss rest
      | (is, some _), [] => is ++ [.misfit]
      | (is, some s), v :: rest =>
        if isValue v then is ++ .given s.long (some v) :: scan ss rest else is ++ [.misfit]

/-! ### What the items say -/

def has (is : List Item) (long : Text) : Bool := is.any (·.names long)

def valueOf? (is : List Item) (long : Text) : Option Text := is.findSome? (·.valueOf? long)

def operands (is : List Item) : List Text := is.filterMap (·.operand?)

structure GenerateArguments where
  input : Option Text := none
  output : Option Text := none
  inPlace : Bool := false
  suffix : Option Text := none
  style : Option KeyStyle := none
  multi : Bool := false
  permissive : Bool := false
  nullability : Option Nullability := none
  noCopyWith : Bool := false
  noEquality : Bool := false
  config : Option Text := none
  editsJson : Bool := false
  deriving DecidableEq, Repr

inductive Command
  | generate (a : GenerateArguments)
  | convert (style : KeyStyle) (names : List Text)
  | check (config : Option Text)
  deriving DecidableEq, Repr

inductive Request
  | version
  | help
  | run (verbose : Bool) (command : Command)
  deriving DecidableEq, Repr

/-! ### Commands -/

structure Grammar where
  switches : List Switch := []
  /-- The test of an operand, by the number of operands before it. -/
  test : Nat → Text → Bool := fun _ _ => false
  /-- What the items come to, each of which passes its test, or `none` if one is missing or two do
  not go together. -/
  read : List Item → Option Command

def commonSwitches : List Switch := [{ long := "verbose", letter := some 'v' }, { long := "help", letter := some 'h' }]

/-- The output and the in-place run exclude each other, and the latter needs an input. -/
def GenerateArguments.areCompatible (a : GenerateArguments) : Bool :=
  !a.inPlace || (a.output.isNone && a.input.isSome)

def anyText (_ : Text) : Bool := true

def isPath (t : Text) : Bool := !t.isEmpty

def isStyle (t : Text) : Bool := (KeyStyle.ofLabel? t).isSome

def isNullability (t : Text) : Bool := (Nullability.ofLabel? t).isSome

def generateArguments (is : List Item) : GenerateArguments :=
  { input := valueOf? is "input"
    output := valueOf? is "output"
    inPlace := has is "in-place"
    suffix := valueOf? is "suffix"
    style := (valueOf? is "style").bind KeyStyle.ofLabel?
    multi := has is "multi"
    permissive := has is "permissive"
    nullability := (valueOf? is "nullability").bind Nullability.ofLabel?
    noCopyWith := has is "no-copy-with"
    noEquality := has is "no-equality"
    config := valueOf? is "config"
    editsJson := has is "edits-json" }

def generateGrammar : Grammar where
  switches :=
    [{ long := "input", letter := some 'i', test := some isPath },
      { long := "output", letter := some 'o', test := some isPath },
      { long := "in-place" },
      { long := "suffix", test := some anyText },
      { long := "style", test := some isStyle },
      { long := "multi" },
      { long := "permissive" },
      { long := "nullability", test := some isNullability },
      { long := "no-copy-with" },
      { long := "no-equality" },
      { long := "config", letter := some 'c', test := some anyText },
      { long := "edits-json" }]
  read is :=
    let a := generateArguments is
    if a.areCompatible then some (.generate a) else none

def convertGrammar : Grammar where
  test
    | 0, t => isStyle t
    | _, _ => true
  read is :=
    match operands is with
    | style :: name :: names => (KeyStyle.ofLabel? style).map fun k => .convert k (name :: names)
    | _ => none

def checkGrammar : Grammar where
  switches := [{ long := "config", letter := some 'c', test := some anyText }]
  read is := some (.check (valueOf? is "config"))

def grammar? (name : Text) : Option Grammar :=
  if name == "generate" then some generateGrammar
  else if name == "convert" then some convertGrammar
  else if name == "check" then some checkGrammar
  else none

/-! ### Requests -/

namespace Grammar

variable (g : Grammar)

def allSwitches : List Switch := commonSwitches ++ g.switches

/-- Whether an item is in order after the items `before` it. -/
def allows (before : List Item) : Item → Bool
  | .misfit => false
  | .operand t => g.test (operands before).length t
  | .given l v =>
    !has before l &&
      match (g.allSwitches.find? (·.long == l)).bind (·.test), v with
      | some test, some v => test v
      | _, _ => true

/-- What the items ask for, after the items `before` them. -/
def request? (verbose : Bool) (before : List Item) : List Item → Option Request
  | [] => (g.read before).map (.run (verbose || has before "verbose"))
  | i :: is =>
    if !g.allows before i then none
    else if i.names "help" then some .help
    else request? verbose (before ++ [i]) is

end Grammar

/-- Where a run of letters ahead of the command leads: to a request of its own, or on, with
verbosity set. -/
def leadingLetters? (verbose : Bool) : Text → Option (Option Request × Bool)
  | [] => some (none, verbose)
  | 'V' :: _ => some (some .version, verbose)
  | 'h' :: _ => some (some .help, verbose)
  | 'v' :: t => if verbose then none else leadingLetters? true t
  | _ => none

/-- The arguments of `help`: at most one, the name of a command. -/
def help? (args : List Text) : Option Request :=
  match args with
  | [] => some .help
  | [name] => if name == "help" || (grammar? name).isSome then some .help else none
  | _ => none

def request? (verbose : Bool) : List Text → Option Request
  | [] => none
  | a :: rest =>
    if a == "--version" then some .version
    else if a == "--help" then some .help
    else if a == "--verbose" then (if verbose then none else request? true rest)
    else if a == "help" then help? rest
    else match a, grammar? a with
      | _, some g => g.request? verbose [] (scan g.allSwitches rest)
      | '-' :: c :: t, none =>
        match leadingLetters? verbose (c :: t) with
        | some (none, verbose) => request? verbose rest
        | some (some r, _) => some r
        | none => none
      | _, none => none

def Request.parse? (args : List Text) : Option Request := request? false args

end DartTransfer.CommandLine

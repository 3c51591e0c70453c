import DartTransfer.DataClass

/-!
# Transfer classes

The Dart class generated for a data class, line by line: the fields, a constructor with named
parameters, `fromMap` and `fromJson`, `copyWith`, `toMap` and `toJson`, `toString`, and value
equality. A field is decoded and encoded by its templates if it has them, else by its value kind:
`Field.decodeExpr` and `Field.encodeExpr`.
-/

namespace DartTransfer

namespace Field

variable (f : Field) (suffix : Text)

/-- The expression for the field's external value. -/
def mapAccess : Text := "map['" ++ f.key ++ "']"

/-- What `decodeExpr` gives where the external value is null. -/
def nullFallback : Text := if f.nullable then "null" else "throw ArgumentError.notNull('" ++ f.key ++ "')"

/-- The expression that reads the field out of `map`. -/
def decodeExpr : Text :=
  match f.templates.decodeOf f.mapAccess with
  | some e => e
  | none =>
    match f.kind with
    | .plain => f.mapAccess
    | .enumerated => f.name ++ "FromString(" ++ f.mapAccess ++ ")"
    | .nested =>
      f.mapAccess ++ " != null ? " ++ companionType f.type suffix ++ ".fromMap(" ++ f.mapAccess ++ ") : " ++
        f.nullFallback

/-- The expression for the external value of the field. -/
def encodeExpr : Text :=
  match f.templates.encodeOf f.name with
  | some e => e
  | none =>
    match f.kind with
    | .plain => f.name
    | .enumerated => f.name ++ "ToString(" ++ f.name ++ ")"
    | .nested => if f.nullable then f.name ++ "?.toMap()" else f.name ++ ".toMap()"

/-- The type of the field's `copyWith` parameter, which takes null for "unchanged". -/
def copyType : Text :=
  let type := f.generatedType suffix
  if type.getLast? == some '?' || type == "dynamic" then type else type ++ "?"

/-! ### The lines of one field -/

def docLine (doc : Text) : Text := "  /// " ++ doc

def declarationLine : Text := "  final " ++ f.generatedType suffix ++ " " ++ f.name ++ ";"

def parameterLine : Text :=
  if f.nullable then "    this." ++ f.name ++ "," else "    required this." ++ f.name ++ ","

def decodeLine : Text := "      " ++ f.name ++ ": " ++ f.decodeExpr suffix ++ ","

def copyParameterLine : Text := "    " ++ f.copyType suffix ++ " " ++ f.name ++ ","

def copyLine : Text := "      " ++ f.name ++ ": " ++ f.name ++ " ?? this." ++ f.name ++ ","

def entryLine : Text := "      '" ++ f.key ++ "': " ++ f.encodeExpr ++ ","

/-- The field in the result of `toString`. -/
def interpolation : Text := f.name ++ ": $\x7b" ++ f.name ++ "\x7d"

def comparison : Text := "        other." ++ f.name ++ " == " ++ f.name

def hashLine : Text := "      " ++ f.name ++ ".hashCode ^"

end Field

namespace TransferClass

def convertImport : Text := "import 'dart:convert';"

def equatableImport : Text := "import 'package:equatable/equatable.dart';"

/-- The imports that the classes generated for `cs` need, in the order in which they are written. -/
def requiredImports (cs : List DataClass) (o : Options) : List Text :=
  convertImport :: if o.equality && cs.any (·.usesEquatable) then [equatableImport] else []

/-- The name of the class generated for a class of the given name. -/
def nameFor (className : Text) (o : Options) : Text := className ++ o.suffix

/-- The lines with `sep` at the end of each but the last, which gets `last`. -/
def endLines (sep last : Text) : List Text → List Text
  | [] => []
  | [l] => [l ++ last]
  | l :: ls => (l ++ sep) :: endLines sep last ls

/-- The lines of `inner` after `opening` and before `closing`. -/
def between (opening : List Text) (inner : List Text) (closing : List Text) : List Text :=
  opening ++ inner ++ closing

/-! ### Sections

The members of the class `name` with the fields `fs`, each after an empty line. -/

def fieldLines (suffix : Text) (fs : List Field) : List Text :=
  fs.flatMap fun f => f.docs.map Field.docLine ++ [f.declarationLine suffix]

def constructorLines (name : Text) (fs : List Field) : List Text :=
  if fs.isEmpty then ["", "  const " ++ name ++ "();"]
  else between ["", "  const " ++ name ++ "(\x7b"] (fs.map Field.parameterLine) ["  \x7d);"]

def fromMapLines (name suffix : Text) (fs : List Field) : List Text :=
  between
    ["", "  factory " ++ name ++ ".fromMap(Map<String, dynamic> map) \x7b", "    return " ++ name ++ "("]
    (fs.map (·.decodeLine suffix))
    ["    );", "  \x7d"]

def fromJsonLines (name : Text) : List Text :=
  ["", "  factory " ++ name ++ ".fromJson(String source) =>",
    "      " ++ name ++ ".fromMap(json.decode(source) as Map<String, dynamic>);"]

def copyWithLines (name suffix : Text) (fs : List Field) : List Text :=
  if fs.isEmpty then ["", "  " ++ name ++ " copyWith() => " ++ name ++ "();"]
  else
    between ["", "  " ++ name ++ " copyWith(\x7b"] (fs.map (·.copyParameterLine suffix))
      (between ["  \x7d) \x7b", "    return " ++ name ++ "("] (fs.map Field.copyLine) ["    );", "  \x7d"])

def toMapLines (fs : List Field) : List Text :=
  between ["", "  Map<String, dynamic> toMap() \x7b", "    return \x7b"] (fs.map Field.entryLine)
    ["    \x7d;", "  \x7d"]

def toJsonLines : List Text := ["", "  String toJson() => json.encode(toMap());"]

def toStringLines (name : Text) (fs : List Field) : List Text :=
  ["", "  @override",
    "  String toString() => '" ++ name ++ "(" ++ Text.joinWith ", " (fs.map Field.interpolation) ++ ")';"]

def propsLines (fs : List Field) : List Text :=
  ["", "  @override",
    "  List<Object?> get props => [" ++ Text.joinWith ", " (fs.map (·.name)) ++ "];"]

def equalsLines (name : Text) (fs : List Field) : List Text :=
  between
    ["", "  @override", "  bool operator ==(Object other) \x7b", "    if (identical(this, other)) return true;", ""]
    (endLines " &&" ";" (("    return other is " ++ name) :: fs.map Field.comparison))
    ["  \x7d"]

/-- The hash codes of the fields and the number that ends the chain. -/
def hashCodeLines (fs : List Field) : List Text :=
  between ["", "  @override", "  int get hashCode =>"] (fs.map Field.hashLine) ["      17;"]

/-! ### The class -/

variable (c : DataClass) (o : Options)

/-- Whether equality is left to the mixin. -/
def usesMixin : Bool := o.equality && c.usesEquatable

def headLine : Text :=
  if usesMixin c o then "class " ++ nameFor c.name o ++ " with EquatableMixin \x7b"
  else "class " ++ nameFor c.name o ++ " \x7b"

def equalityLines : List Text :=
  if usesMixin c o then propsLines c.fields
  else if o.equality then equalsLines (nameFor c.name o) c.fields ++ hashCodeLines c.fields
  else []

def memberLines : List Text :=
  let name := nameFor c.name o
  constructorLines name c.fields ++ fromMapLines name o.suffix c.fields ++ fromJsonLines name ++
    (if o.copyWith then copyWithLines name o.suffix c.fields else []) ++
    toMapLines c.fields ++ toJsonLines ++ toStringLines name c.fields ++ equalityLines c o

def lines : List Text :=
  between [headLine c o] (fieldLines o.suffix c.fields ++ memberLines c o) ["\x7d"]

/-- The text of the class, each line ended by a newline. -/
def render : Text := (lines c o).flatMap (· ++ ['\n'])

end TransferClass

end DartTransfer

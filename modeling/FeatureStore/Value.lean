import FeatureStore.Json.Decode

/-!
Values of features and labels. A value is written with its kind beside it, so that every kind comes
back as it was; `toPlain` and `ofPlain` convert to and from the bare form that a column holds.
-/
namespace FeatureStore

inductive ValueType where
  | int
  | float
  | string
  | bool
  | timestamp
  | floatVector
  deriving DecidableEq, Repr

namespace ValueType

def all : List (String × ValueType) :=
  [("Int", int), ("Float", float), ("String", string), ("Bool", bool), ("Timestamp", timestamp),
    ("FloatVector", floatVector)]

def name : ValueType → String
  | int => "Int"
  | float => "Float"
  | string => "String"
  | bool => "Bool"
  | timestamp => "Timestamp"
  | floatVector => "FloatVector"

def toJson (t : ValueType) : Json := .string t.name

def decoder : Json.Decoder ValueType := Json.Decoder.oneOf all

end ValueType

inductive FeatureValue where
  | null
  | int (n : Int64)
  | float (x : Binary64)
  | string (s : String)
  | bool (b : Bool)
  | ints (items : List Int64)
  | floats (items : List Binary64)
  | strings (items : List String)
  | json (value : Json)
  deriving BEq, Repr, Inhabited

namespace FeatureValue
open Json (Decoder)

inductive Kind where
  | null
  | int
  | float
  | string
  | bool
  | ints
  | floats
  | strings
  | json
  deriving DecidableEq, Repr

def Kind.all : List (String × Kind) :=
  [("Null", null), ("Int", int), ("Float", float), ("String", string), ("Bool", bool),
    ("ArrayInt", ints), ("ArrayFloat", floats), ("ArrayString", strings), ("Json", json)]

def Kind.name : Kind → String
  | null => "Null"
  | int => "Int"
  | float => "Float"
  | string => "String"
  | bool => "Bool"
  | ints => "ArrayInt"
  | floats => "ArrayFloat"
  | strings => "ArrayString"
  | json => "Json"

def kind : FeatureValue → Kind
  | null => .null
  | int _ => .int
  | float _ => .float
  | string _ => .string
  | bool _ => .bool
  | ints _ => .ints
  | floats _ => .floats
  | strings _ => .strings
  | json _ => .json

def isNull : FeatureValue → Bool
  | null => true
  | _ => false

def toPlain : FeatureValue → Json
  | null => .null
  | int n => .ofInt64 n
  | float x => .ofBinary64 x
  | string s => .string s
  | bool b => .bool b
  | ints items => .array (items.map .ofInt64)
  | floats items => .array (items.map .ofBinary64)
  | strings items => .array (items.map .string)
  | json value => value

def asInt? : Json → Option Int64
  | .number (.whole n) => if n.val < 9223372036854775808 then some (.ofInt n.val) else none
  | _ => none

def asFloat? : Json → Option Binary64
  | .number (.whole n) => some (.ofInt n.val)
  | .number (.float x _) => some x
  | _ => none

def asString? : Json → Option String
  | .string s => some s
  | _ => none

/-- The value that a bare form stands for. Integers stay integers when 64 bits hold them; a list
whose items share one kind becomes a list of that kind, an empty one a list of integers. -/
def ofPlain : Json → FeatureValue
  | .null => null
  | .bool b => bool b
  | .string s => string s
  | .number n =>
    match asInt? (.number n), asFloat? (.number n) with
    | some k, _ => int k
    | none, some x => float x
    | none, none => json (.number n)
  | .array items =>
    match items.mapM asInt?, items.mapM asFloat?, items.mapM asString? with
    | some ns, _, _ => ints ns
    | none, some xs, _ => floats xs
    | none, none, some ss => strings ss
    | none, none, none => json (.array items)
  | .object members => json (.object members)

def toJson : FeatureValue → Json
  | null => .object [("type", .string Kind.null.name)]
  | v => .object [("type", .string v.kind.name), ("value", v.toPlain)]

def content : Kind → Decoder FeatureValue
  | .null => (Decoder.nothing "unit variant FeatureValue::Null").map fun _ => null
  | .int => Decoder.int64.map int
  | .float => Decoder.binary64.map float
  | .string => Decoder.string.map string
  | .bool => Decoder.bool.map bool
  | .ints => (Decoder.list Decoder.int64).map ints
  | .floats => (Decoder.list Decoder.binary64).map floats
  | .strings => (Decoder.list Decoder.string).map strings
  | .json => Decoder.map json Decoder.json

def tagged : Decoder.Tagged Kind FeatureValue where
  title := "adjacently tagged enum FeatureValue"
  tagName := "type"
  contentName := "value"
  tags := Kind.all
  content := content
  alone k := if k = .null then some null else none

def decoder : Decoder FeatureValue := Decoder.tagged tagged

def floatLayout : Decimal.Layout where
  least := -4
  greatest := 15
  plus := false
  infinity := "inf"
  notANumber := "NaN"

def bracketed (items : List String) : String := "[" ++ ", ".intercalate items ++ "]"

def intText (n : Int) : String := String.ofList (Json.intChars n)

mutual
def describeJson : Json → String
  | .null => "Null"
  | .bool b => if b then "Bool(true)" else "Bool(false)"
  | .number n => "Number(" ++ String.ofList (Json.Number.chars n) ++ ")"
  | .string s => "String(" ++ Text.quoted s ++ ")"
  | .array items => "Array " ++ bracketed (describeItems items)
  | .object members => "Object \x7b" ++ ", ".intercalate (describeMembers members) ++ "\x7d"
def describeItems : List Json → List String
  | [] => []
  | j :: rest => describeJson j :: describeItems rest
def describeMembers : List (String × Json) → List String
  | [] => []
  | (k, j) :: rest => (Text.quoted k ++ ": " ++ describeJson j) :: describeMembers rest
end

def describe : FeatureValue → String
  | null => "Null"
  | int n => "Int(" ++ intText n.toInt ++ ")"
  | float x => "Float(" ++ x.text floatLayout ++ ")"
  | string s => "String(" ++ Text.quoted s ++ ")"
  | bool b => if b then "Bool(true)" else "Bool(false)"
  | ints items => "ArrayInt(" ++ bracketed (items.map fun n => intText n.toInt) ++ ")"
  | floats items => "ArrayFloat(" ++ bracketed (items.map (Binary64.text floatLayout)) ++ ")"
  | strings items => "ArrayString(" ++ bracketed (items.map Text.quoted) ++ ")"
  | json value => "Json(" ++ describeJson value ++ ")"

end FeatureValue
end FeatureStore

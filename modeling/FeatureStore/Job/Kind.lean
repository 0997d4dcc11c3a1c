import FeatureStore.Json.Decode

/-!
The kinds of job. As with backends, a kind is known by its name.
-/
namespace FeatureStore

inductive JobKind where
  | createTransformation
  | createTrainingSet
  | materialize
  | copyToOnline
  | registerSource
  | other (name : String)
  deriving Repr

namespace JobKind

def known : List JobKind :=
  [createTransformation, createTrainingSet, materialize, copyToOnline, registerSource]

def name : JobKind → String
  | createTransformation => "CREATE_TRANSFORMATION"
  | createTrainingSet => "CREATE_TRAINING_SET"
  | materialize => "MATERIALIZE"
  | copyToOnline => "COPY_TO_ONLINE"
  | registerSource => "REGISTER_SOURCE"
  | other name => name

instance : BEq JobKind := ⟨fun a b => a.name == b.name⟩

def ofName (name : String) : JobKind :=
  (known.find? fun k => k.name = name).getD (other name)

theorem nameOfName (s : String) : (ofName s).name = s := by
  unfold ofName
  cases found : known.find? fun k => k.name = s with
  | none => rfl
  | some k => simpa using List.find?_some found

def describe : JobKind → String
  | createTransformation => "CreateTransformation"
  | createTrainingSet => "CreateTrainingSet"
  | materialize => "Materialize"
  | copyToOnline => "CopyToOnline"
  | registerSource => "RegisterSource"
  | other name => "Other(" ++ Text.quoted name ++ ")"

def toJson (k : JobKind) : Json := .string k.name

def decoder : Json.Decoder JobKind := Json.Decoder.string.map ofName

end JobKind
end FeatureStore

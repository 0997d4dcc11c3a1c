import FeatureStore.Yaml.Reader

/-!
Settings of a worker: how it logs. Every setting has a default, and unknown keys are ignored.
-/
namespace FeatureStore

inductive LogFormat where
  | pretty
  | json
  deriving DecidableEq, Repr

namespace LogFormat

def title : LogFormat → String
  | pretty => "Pretty"
  | json => "Json"

def ofName? : String → Option LogFormat
  | "pretty" => some pretty
  | "json" => some json
  | _ => none

end LogFormat

structure LogSettings where
  level : String
  format : LogFormat
  deriving DecidableEq, Repr

structure Settings where
  log : LogSettings
  deriving DecidableEq, Repr

namespace Settings

def defaultLog : LogSettings := ⟨"info", .pretty⟩

def standard : Settings := ⟨defaultLog⟩

def entriesOf (d : Yaml.Document) (y : Yaml) : Option (List (String × Yaml)) :=
  match d.resolve y with
  | .mapping _ entries => entries.mapM fun e => (d.text? e.1).map (·, e.2)
  | .scalar _ true "" => some []
  | _ => none

def single (key : String) (entries : List (String × Yaml)) : Option (Option Yaml) :=
  match entries.filter fun e => e.1 = key with
  | [] => some none
  | [(_, v)] => some (some v)
  | _ => none

def saysNothing (text : String) : Bool := ["", "~", "null", "Null", "NULL"].contains text

/- A format is named by a text, or by the type of a value that says nothing. -/
def formatOf (d : Yaml.Document) (y : Yaml) : Option LogFormat :=
  match d.resolve y with
  | .scalar none _ text => LogFormat.ofName? text
  | .scalar (some type) true text => if saysNothing text then LogFormat.ofName? type else none
  | _ => none

def logOf (d : Yaml.Document) (y : Yaml) : Option LogSettings := do
  let entries ← entriesOf d y
  let level ←
    match ← single "level" entries with
    | none => some defaultLog.level
    | some y => d.text? y
  let format ←
    match ← single "format" entries with
    | none => some defaultLog.format
    | some y => formatOf d y
  return ⟨level, format⟩

def ofYaml (d : Yaml.Document) : Option Settings := do
  match ← single "log" (← entriesOf d d.root) with
  | none => return standard
  | some log => return ⟨← logOf d log⟩

def ofText (text : String) : Option Settings := do ofYaml (← Yaml.read? text)

end Settings
end FeatureStore

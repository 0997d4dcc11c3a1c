import FeatureStore.Error

/-!
Reports of failure: an error and what was going on when it came up, from the outside in.
-/
namespace FeatureStore

structure Report where
  top : String
  causes : List String
  deriving DecidableEq, Repr

namespace Report

def ofMessage (message : String) : Report := ⟨message, []⟩

def ofError (e : Error) : Report := ⟨e.message, e.causes⟩

def within (context : String) (r : Report) : Report := ⟨context, r.top :: r.causes⟩

def line (r : Report) : String := ": ".intercalate (r.top :: r.causes)

def hanging (width : Nat) (s : String) : String :=
  String.ofList (s.toList.flatMap fun c =>
    if c = '\n' then '\n' :: List.replicate width ' ' else [c])

def listing : List String → List String
  | [cause] => ["    " ++ hanging 4 cause]
  | causes => causes.mapIdx fun index cause => "    " ++ toString index ++ ": " ++ hanging 7 cause

def text (r : Report) : String :=
  let head := "Error: " ++ r.top
  if r.causes.isEmpty then head ++ "\n"
  else "\n".intercalate (head :: "" :: "Caused by:" :: listing r.causes) ++ "\n"

end Report
end FeatureStore

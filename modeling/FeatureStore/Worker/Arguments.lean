import FeatureStore.Bindings

/-!
The command line of a worker. Words are taken from left to right, and the first one that asks for help
or does not fit decides. What the command line leaves out, the environment may give.
-/
namespace FeatureStore.Worker

inductive Flag where
  | config
  | jobKind
  | jobConfig
  | jobConfigFile
  deriving DecidableEq, Repr

namespace Flag

def name : Flag → String
  | config => "config"
  | jobKind => "job-kind"
  | jobConfig => "job-config"
  | jobConfigFile => "job-config-file"

def all : List Flag := [config, jobKind, jobConfig, jobConfigFile]

def ofName? (name : String) : Option Flag := all.find? fun f => f.name = name

def envName : Flag → Option String
  | jobKind => some "FEATUREFORGE_JOB_KIND"
  | jobConfig => some "FEATUREFORGE_JOB_CONFIG"
  | _ => none

def accepts : Flag → String → Bool
  | config, value => !value.isEmpty
  | jobConfigFile, value => !value.isEmpty
  | _, _ => true

end Flag

inductive Word where
  | flag (f : Flag) (attached : Option String)
  | help
  | plain (text : String)
  | unknown
  deriving DecidableEq, Repr

namespace Word

def long (body : List Char) : Word :=
  let name := String.ofList (body.takeWhile (· != '='))
  match body.dropWhile (· != '=') with
  | [] =>
    if name = "help" then help
    else ((Flag.ofName? name).map fun f => flag f none).getD unknown
  | _ :: value => ((Flag.ofName? name).map fun f => flag f (some (String.ofList value))).getD unknown

def short : List Char → Word
  | 'h' :: _ => help
  | ['c'] => flag .config none
  | 'c' :: '=' :: value => flag .config (some (String.ofList value))
  | 'c' :: value => flag .config (some (String.ofList value))
  | _ => unknown

/- A single dash is a value; two dashes alone end the options, and nothing may follow them. -/
def ofText (s : String) : Word :=
  match s.toList with
  | '-' :: '-' :: body => long body
  | '-' :: c :: rest => short (c :: rest)
  | _ => plain s

end Word

inductive Stop where
  | help
  | misuse
  deriving DecidableEq, Repr

def give (given : Bindings Flag String) (f : Flag) (value : String) :
    Except Stop (Bindings Flag String) :=
  if given.contains f || !f.accepts value then .error .misuse else .ok (given.insert f value)

def scan (given : Bindings Flag String) : List String → Except Stop (Bindings Flag String)
  | [] => .ok given
  | ["--"] => .ok given
  | s :: rest =>
    match Word.ofText s with
    | .help => .error .help
    | .flag f (some value) => do scan (← give given f value) rest
    | .flag f none =>
      match rest with
      | [] => .error .misuse
      | next :: rest =>
        match Word.ofText next with
        | .plain value => do scan (← give given f value) rest
        | _ => .error .misuse
    | _ => .error .misuse

def usage : String :=
  "Usage: featureforge-worker [-c FILE] --job-kind KIND [--job-config TEXT] [--job-config-file FILE]\n"

structure Options where
  settings : String
  jobKind : String
  jobConfig : Option String
  jobConfigFile : Option String
  deriving DecidableEq, Repr

namespace Options

def valueOf (env : String → Option String) (given : Bindings Flag String) (f : Flag) : Option String :=
  (given.find? f).or (f.envName.bind env)

def ofArguments (env : String → Option String) (args : List String) : Except Stop Options := do
  let given ← scan .empty args
  let value := valueOf env given
  match value .jobKind with
  | none => .error .misuse
  | some kind =>
    .ok ⟨(value .config).getD "featureforge.yaml", kind, value .jobConfig, value .jobConfigFile⟩

end Options
end FeatureStore.Worker

import FeatureStore.Config
import FeatureStore.Worker.Report
import FeatureStore.Worker.Settings

/-!
What a worker reads: its settings and the configuration of its job.
-/
namespace FeatureStore

structure FileFault where
  isPresent : Bool
  reason : String
  deriving DecidableEq, Repr

namespace FileFault

def missing : FileFault := ⟨false, "No such file or directory (os error 2)"⟩

def directory : FileFault := ⟨true, "Is a directory (os error 21)"⟩

def notDirectory : FileFault := ⟨false, "Not a directory (os error 20)"⟩

def nameTooLong : FileFault := ⟨false, "File name too long (os error 36)"⟩

def nullInName : FileFault := ⟨false, "file name contained an unexpected NUL byte"⟩

end FileFault

abbrev FileContent := Except FileFault (List UInt8)

def textOf (bytes : List UInt8) : Option String :=
  String.fromUTF8? bytes.toByteArray

def Settings.load : FileContent → Except Report (Settings × Bool)
  | .error fault => if fault.isPresent then .error (.ofMessage fault.reason) else .ok (standard, false)
  | .ok bytes =>
    match textOf bytes with
    | none => .error (.ofMessage "stream did not contain valid UTF-8")
    | some text =>
      match Settings.ofText text with
      | none => .error (.ofMessage "invalid settings")
      | some s => .ok (s, true)

inductive Payload where
  | inline (text : String)
  | file (path : String)
  deriving DecidableEq, Repr

namespace Payload

def ofOptions : (text file : Option String) → Except Report Payload
  | some text, none => .ok (inline text)
  | none, some path => .ok (file path)
  | some _, some _ => .error (.ofMessage "--job-config and --job-config-file are mutually exclusive")
  | none, none => .error (.ofMessage "one of --job-config or --job-config-file is required")

def read {m : Type → Type} [Monad m] (files : String → m FileContent) :
    Payload → m (Except Report SerializedConfig)
  | inline text => return .ok (.ofText text)
  | file path => do
    match ← files path with
    | .ok bytes => return .ok ⟨bytes⟩
    | .error fault => return .error ((Report.ofMessage fault.reason).within ("reading job config " ++ path))

end Payload
end FeatureStore

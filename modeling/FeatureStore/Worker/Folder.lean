import FeatureStore.Worker.Payload

/-!
The folder in which a worker runs. A path is followed name by name; a file ends it, and of what lies
outside the folder only the way up is known.
-/
namespace FeatureStore

structure Folder where
  files : List (List (List Char) × List UInt8)
  deriving DecidableEq, Repr

namespace Folder

def empty : Folder := ⟨[]⟩

def namesOf (path : String) : List (List Char) :=
  (path.toList.splitOn '/').filter fun name => !name.isEmpty && name != ['.']

def ofFiles (files : List (String × List UInt8)) : Folder :=
  ⟨files.map fun f => (namesOf f.1, f.2)⟩

inductive Spot where
  | folder (names : List (List Char))
  | file (bytes : List UInt8)
  | outside
  deriving DecidableEq, Repr

def entry (f : Folder) (names : List (List Char)) (name : List Char) : Except FileFault Spot :=
  let names := names ++ [name]
  if 255 < (String.ofList name).utf8ByteSize then .error .nameTooLong
  else
    match f.files.lookup names with
    | some bytes => .ok (.file bytes)
    | none =>
      if f.files.any fun e => names.isPrefixOf e.1 then .ok (.folder names) else .error .missing

def follow (f : Folder) (spot : Spot) (name : List Char) : Except FileFault Spot :=
  let stays := name.isEmpty || name = ['.']
  let climbs := name = ['.', '.']
  match spot with
  | .file _ => .error .notDirectory
  | .outside => if stays || climbs then .ok .outside else .error .missing
  | .folder names =>
    if stays then .ok spot
    else if climbs then .ok (if names.isEmpty then .outside else .folder names.dropLast)
    else f.entry names name

def read (f : Folder) (path : String) : FileContent := do
  if path.toList.contains '\x00' then .error .nullInName
  let start := if path.toList.head? = some '/' then Spot.outside else .folder []
  match ← (path.toList.splitOn '/').foldlM f.follow start with
  | .file bytes => .ok bytes
  | _ => .error .directory

end Folder
end FeatureStore

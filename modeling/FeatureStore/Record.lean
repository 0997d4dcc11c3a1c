import FeatureStore.Resource
import FeatureStore.Time.Reader
import FeatureStore.Value

/-!
Records of a feature or a label: one value of one entity at one time. `latestPerEntity` keeps what is
served online; `valueAsOf` looks a value up as it was known at a time, which is what training needs.
-/
namespace FeatureStore
open Json (Decoder)

structure ResourceRecord where
  entity : String
  value : FeatureValue
  ts : Timestamp
  deriving Repr, Inhabited

namespace ResourceRecord

def ofValue (entity : String) (value : FeatureValue) : ResourceRecord := ⟨entity, value, .epoch⟩

def atTime (r : ResourceRecord) (ts : Timestamp) : ResourceRecord := { r with ts := ts }

def check (r : ResourceRecord) : Except Error Unit :=
  if r.entity.isEmpty then .error (.invalidInput "resource record has an empty entity") else .ok ()

end ResourceRecord

namespace Timestamp

def toJson (t : Timestamp) : Json := .string t.text

def decoder : Decoder Timestamp := fun _ t =>
  match t with
  | .string literal => do
    match read (← literal.text) with
    | .ok ts => .ok ts
    | .error fault => .error (.refused fault.message)
  | t => Decoder.unexpected "an RFC 3339 formatted date and time string" t

end Timestamp

namespace ResourceRecord

def toJson (r : ResourceRecord) : Json :=
  .object [("entity", .string r.entity), ("value", r.value.toJson), ("ts", r.ts.toJson)]

def decoder : Decoder ResourceRecord :=
  Decoder.record "ResourceRecord"
    (.field (Decoder.required "entity" Decoder.string) <|
      .field (Decoder.required "value" FeatureValue.decoder) <|
      .field (Decoder.required "ts" Timestamp.decoder) .done)
    fun (entity, value, ts, _) => ⟨entity, value, ts⟩

def insertLatest (r : ResourceRecord) : List ResourceRecord → List ResourceRecord
  | [] => [r]
  | s :: rest =>
    if r.entity < s.entity then r :: s :: rest
    else if s.entity < r.entity then s :: insertLatest r rest
    else if r.ts.lt s.ts then s :: rest
    else r :: rest

def latestPerEntity (records : List ResourceRecord) : List ResourceRecord :=
  records.foldl (fun latest r => insertLatest r latest) []

def laterAsOf (ts : Timestamp) (held : Option ResourceRecord) (r : ResourceRecord) :
    Option ResourceRecord :=
  if r.ts.le ts then
    match held with
    | some h => if r.ts.lt h.ts then some h else some r
    | none => some r
  else held

def valueAsOf (records : List ResourceRecord) (entity : String) (ts : Timestamp) : FeatureValue :=
  match (records.filter fun r => r.entity = entity).foldl (laterAsOf ts) none with
  | some r => r.value
  | none => .null

end ResourceRecord
end FeatureStore

import FeatureStore.Proofs.Online.Redis

/-!
Reading back what a table on a Redis server took. It takes every value, but a reader refuses the text of
some: a number that is not finite is written as null, and JSON may be nested deeper than a reader goes.
-/
namespace FeatureStore

namespace FeatureValue
open Json (Decoder Fault Tree)

def Outcome (fault? : Option Fault) (result : Except Fault α) : Prop :=
  match fault? with
  | none => ∃ a, result = .ok a
  | some fault => result = .error fault

theorem Outcome.read {result : Except Fault α} {a : α} (read : result = .ok a) : Outcome none result :=
  ⟨a, read⟩

theorem Outcome.map {fault? : Option Fault} {result : Except Fault α} (outcome : Outcome fault? result)
    (f : α → β) : Outcome fault? (result.map f) := by
  cases fault? with
  | none =>
    obtain ⟨a, rfl⟩ := outcome
    exact ⟨f a, rfl⟩
  | some fault =>
    obtain rfl : result = .error fault := outcome
    rfl

def notNumber : Fault := .invalidType .null "f64"

def refusal? : FeatureValue → Option Fault
  | float x => if x.isFinite then none else some notNumber
  | floats items => if items.all Binary64.isFinite then none else some notNumber
  | json value => if value.height ≤ 126 then none else some .tooDeep
  | _ => none

theorem doubleOutcome (x : Binary64) (depth : Nat) :
    Outcome (if x.isFinite then none else some notNumber)
      (Decoder.binary64 depth (Tree.ofJson (Json.ofBinary64 x).reread)) := by
  cases finite : x.isFinite with
  | true =>
    obtain ⟨y, h, read⟩ := Json.Reader.floatReread x finite
    rw [Json.ofBinary64, dif_pos finite, Json.reread, Json.Reader.rereadAs read]
    exact ⟨y, rfl⟩
  | false =>
    have infinite : ¬ x.isFinite = true := by rw [finite]; decide
    rw [Json.ofBinary64, dif_neg infinite, Json.reread]
    rfl

theorem doublesOutcome (items : List Binary64) (depth : Nat) :
    Outcome (if items.all Binary64.isFinite then none else some notNumber)
      (Decoder.listItems Decoder.binary64 depth
        (Tree.ofItems (Json.rereadItems (items.map Json.ofBinary64)))) := by
  induction items with
  | nil => exact ⟨[], rfl⟩
  | cons x more ih =>
    have first := doubleOutcome x depth
    simp only [List.map_cons, Json.rereadItems, Tree.ofItems, Decoder.listItems, List.all_cons]
    by_cases finite : x.isFinite = true
    · rw [if_pos finite] at first
      obtain ⟨y, read⟩ := first
      simp only [read, finite, bind, Except.bind, Bool.true_and]
      exact ih.map (y :: ·)
    · rw [if_neg finite] at first
      have refused : Decoder.binary64 depth (Tree.ofJson (Json.ofBinary64 x).reread) = .error notNumber :=
        first
      simp only [refused, finite, bind, Except.bind, Bool.false_and]
      rfl

theorem listEntered (d : Decoder α) (depth : Nat) (items : List Tree) :
    Decoder.list d (depth + 2) (.array items .closed) = Decoder.listItems d (depth + 1) items := by
  simp only [Decoder.list, Json.enter, bind, Except.bind]
  cases Decoder.listItems d (depth + 1) items <;> rfl

theorem contentOutcome (v : FeatureValue) :
    Outcome v.refusal? (content v.kind 127 (Tree.ofJson v.toPlain.reread)) := by
  have plain (storable : v.Storable = true) :
      content v.kind 127 (Tree.ofJson v.toPlain.reread) = .ok v := by
    rw [Json.rereadFree _ (plainFloatFree storable), contentRead storable]
  cases v with
  | float x => exact (doubleOutcome x 127).map float
  | floats items =>
    have outcome := (doublesOutcome items 126).map floats
    rw [← listEntered] at outcome
    exact outcome
  | json value =>
    obtain ⟨made, deep⟩ := Json.jsonBounded value.reread 127 (by decide)
    rw [Json.rereadHeight] at made deep
    have decoded : Outcome (if value.height ≤ 126 then none else some .tooDeep)
        (Decoder.json 127 (Tree.ofJson value.reread)) := by
      split
      · exact made (by omega)
      · exact deep (by omega)
    exact decoded.map json
  | _ => exact .read (plain rfl)

theorem decoderOutcome (v : FeatureValue) :
    Outcome v.refusal? (decoder Json.maxDepth (Tree.ofJson v.toJson.reread)) ∧
      ∀ w, decoder Json.maxDepth (Tree.ofJson v.toJson.reread) = .ok w → w.kind = v.kind := by
  have outcome := contentOutcome v
  cases v with
  | null =>
    have read : decoder Json.maxDepth (Tree.ofJson null.toJson.reread) = .ok null := rfl
    rw [read]
    exact ⟨⟨null, rfl⟩, fun w same => by cases same; rfl⟩
  | _ =>
    rw [← taggedRead] at outcome
    exact ⟨outcome, fun w read => contentKind ((taggedRead _ _ 126).symm.trans read)⟩

end FeatureValue

namespace Redis
open Bindings (last?)

/- What a table answers for an entity after it took a value, alone or in a batch that gives the entity
no later one. -/
structure GivesBack (c : RedisConfig) (feature variant entity : String) (v : FeatureValue) (k : Keyspace)
    (answer : Except Failure FeatureValue) : Prop where
  alone : ∃ after, Serves ((table c feature variant).set entity v) k (.ok ()) after ∧
    Serves ((table c feature variant).get entity) after answer after
  batch : ∀ records, last? records entity = some v →
    ∃ after, Serves ((table c feature variant).setBatch records) k (.ok ()) after ∧
      Serves ((table c feature variant).get entity) after answer after

theorem givesBack (c : RedisConfig) (feature variant entity : String) (v : FeatureValue) (k : Keyspace) :
    GivesBack c feature variant entity v k ((decodeValue (encodeValue v)).mapError .error) := by
  constructor
  · have got := getServes c feature variant entity (k.put (onlineTableKey c.scope feature variant)
      ((k.hash (onlineTableKey c.scope feature variant)).insert entity (encodeValue v)))
    rw [Keyspace.hashPut, if_pos rfl, Bindings.findInsert, if_pos rfl] at got
    exact ⟨_, setServes c feature variant entity v k, got⟩
  · intro records last
    have got := getServes c feature variant entity
      (k.runAll (writes (onlineTableKey c.scope feature variant) records)).2
    have written : last? (records.map fun r => (r.1, encodeValue r.2)) entity = some (encodeValue v) := by
      rw [Bindings.lastMapped, last]
      rfl
    rw [writesLeave, if_pos rfl, Bindings.findInsertAll, written, Option.some_or] at got
    exact ⟨_, setBatchServes c feature variant records k, got⟩

/-- Every value without floating-point numbers whose JSON is at most 126 levels deep keeps through its
text and through every table, alone or in a batch, and no other such value has the same text. -/
theorem valuesKeepThroughTable (v : FeatureValue) (storable : v.Storable = true) :
    decodeValue (encodeValue v) = .ok v ∧
      (∀ c feature variant entity k, GivesBack c feature variant entity v k (.ok v)) ∧
      ∀ w : FeatureValue, w.Storable = true → encodeValue w = encodeValue v → w = v := by
  have read := decodeEncoded storable
  refine ⟨read, fun c feature variant entity k => ?_, fun w storableW same => ?_⟩
  · have back := givesBack c feature variant entity v k
    rwa [read] at back
  · have readW := decodeEncoded storableW
    rw [same, read] at readW
    exact (Except.ok.inj readW).symm

def profile : FeatureValue :=
  .json (.object [("\n", .array [.number (.whole ⟨18446744073709551615, by decide, by decide⟩),
    .number (.whole ⟨-9223372036854775808, by decide, by decide⟩)]), ("😀", .object [("", .null)])])

theorem valuesKeepThroughTableProfile :
    profile.Storable = true ∧ decodeValue (encodeValue profile) = .ok profile ∧
      GivesBack .standard "profile" "v1" "alice" profile .empty (.ok profile) := by
  have storable : profile.Storable = true := by decide
  obtain ⟨read, back, -⟩ := valuesKeepThroughTable profile storable
  exact ⟨storable, read, back _ _ _ _ _⟩

/-! Values that a table takes and never gives back. -/

def ReadAs (v : FeatureValue) (answer : Except Failure FeatureValue) : Prop :=
  match v.refusal? with
  | none => ∃ w, answer = .ok w ∧ w.kind = v.kind
  | some fault => answer = .error (.error (.deserialization "online value" fault))

theorem readAsDecoded (v : FeatureValue) :
    ReadAs v ((decodeValue (encodeValue v)).mapError .error) := by
  obtain ⟨outcome, kind⟩ := v.decoderOutcome
  rw [decodeValue, encodeValue, Json.decodeReread, ReadAs]
  cases refusal : v.refusal? with
  | none =>
    rw [refusal] at outcome
    obtain ⟨w, read⟩ := outcome
    rw [read]
    exact ⟨w, rfl, kind w read⟩
  | some fault =>
    rw [refusal] at outcome
    have refused : FeatureValue.decoder Json.maxDepth (Json.Tree.ofJson v.toJson.reread) = .error fault :=
      outcome
    rw [refused]
    rfl

/-- A table takes every value, alone or in a batch, and gives back a value of the same kind, unless it
holds a number that is not finite or its JSON is more than 126 levels deep: such a value is never read. -/
theorem readableUnlessRefused (c : RedisConfig) (feature variant entity : String) (v : FeatureValue)
    (k : Keyspace) : ∃ answer, ReadAs v answer ∧ GivesBack c feature variant entity v k answer :=
  ⟨_, readAsDecoded v, givesBack c feature variant entity v k⟩

theorem readableUnlessRefusedHalf :
    let half : FeatureValue := .float ⟨0x3FE0000000000000⟩
    ∃ w, w.kind = .float ∧ GivesBack .standard "score" "v1" "alice" half .empty (.ok w) := by
  intro half
  obtain ⟨answer, ⟨w, rfl, kind⟩, back⟩ :=
    readableUnlessRefused .standard "score" "v1" "alice" half .empty
  exact ⟨w, kind, back⟩

theorem refusedBack (c : RedisConfig) (feature variant entity : String) (k : Keyspace) {v : FeatureValue}
    {fault : Json.Fault} (refusal : v.refusal? = some fault) :
    GivesBack c feature variant entity v k (.error (.error (.deserialization "online value" fault))) := by
  have answer := readAsDecoded v
  rw [ReadAs, refusal] at answer
  have refused : (decodeValue (encodeValue v)).mapError .error =
      (.error (.error (.deserialization "online value" fault)) : Except Failure FeatureValue) := answer
  rw [← refused]
  exact givesBack c feature variant entity v k

theorem deepRefusal {value : Json} (deep : 126 < value.height) :
    (FeatureValue.json value).refusal? = some .tooDeep := if_neg (not_le.mpr deep)

def nested : Nat → Json
  | 0 => .array []
  | n + 1 => .array [nested n]

theorem nestedHeight (n : Nat) : (nested n).height = n + 1 := by
  induction n with
  | zero => rfl
  | succ n ih => rw [nested, Json.height, Json.heightItems, ih, Json.heightItems, Nat.max_zero]

theorem deepUnreadable :
    (∃ after, Serves ((table .standard "tree" "v1").set "alice" (.json (nested 126))) .empty (.ok ()) after ∧
      Serves ((table .standard "tree" "v1").get "alice") after
        (.error (.error (.deserialization "online value" .tooDeep))) after) ∧
    ∃ after, Serves ((table .standard "score" "v1").set "alice" (.float (.infinity false))) .empty (.ok ())
        after ∧
      Serves ((table .standard "score" "v1").get "alice") after
        (.error (.error (.deserialization "online value" (.invalidType .null "f64")))) after := by
  have beyond : 126 < (nested 126).height := by
    rw [nestedHeight]
    decide
  exact ⟨(refusedBack .standard "tree" "v1" "alice" .empty (deepRefusal beyond)).alone,
    (refusedBack .standard "score" "v1" "alice" .empty (v := .float (.infinity false)) rfl).alone⟩

end Redis
end FeatureStore

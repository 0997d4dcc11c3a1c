import FeatureStore.Online.Redis.Store
import FeatureStore.Proofs.Json.Decode

/-!
Values that keep through their written form: those without floating-point numbers, whose JSON is
nested no deeper than a reader goes.
-/
namespace FeatureStore.FeatureValue
open Json (Decoder Format)

def Finite : FeatureValue → Bool
  | float x => x.isFinite
  | floats items => items.all Binary64.isFinite
  | _ => true

def Ordered : FeatureValue → Bool
  | json value => value.Ordered
  | _ => true

/-- Values without floating-point numbers, their JSON at most 126 levels deep. An object of JSON has its
keys in ascending order and each of them once. -/
def Storable : FeatureValue → Bool
  | float _ => false
  | floats items => items.isEmpty
  | json value => value.FloatFree && value.Ordered && decide (value.height ≤ 126)
  | _ => true

theorem plainFloatFree {v : FeatureValue} (storable : v.Storable = true) :
    v.toPlain.FloatFree = true := by
  cases v with
  | null => rfl
  | int n => rfl
  | float x => simp [Storable] at storable
  | string s => rfl
  | bool b => rfl
  | ints items => exact Format.int64.list.floatFree items
  | floats items =>
    simp only [Storable, List.isEmpty_iff] at storable
    subst storable
    rfl
  | strings items => exact Format.string.list.floatFree items
  | json value =>
    simp only [Storable, Bool.and_eq_true] at storable
    exact storable.1.1

theorem toJsonFloatFree {v : FeatureValue} (storable : v.Storable = true) :
    v.toJson.FloatFree = true := by
  have plain := plainFloatFree storable
  cases v with
  | null => rfl
  | _ => simp only [toJson, Json.FloatFree, Json.FloatFreeMembers, plain, Bool.and_self]

theorem tagMet (name : String) (depth : Nat) :
    Decoder.Tagged.member tagged depth "type" (Json.Tree.ofJson (.string name)) .start =
      (Decoder.named Kind.all name).map .tag := by
  have tag : Decoder.oneOf Kind.all depth (Json.Tree.ofJson (.string name)) =
      Decoder.named Kind.all name := rfl
  simp only [Decoder.Tagged.member, tagged, if_true, tag, bind, Except.bind]
  cases Decoder.named Kind.all name <;> rfl

theorem namedRead (name : String) (plain : Json) (depth : Nat) :
    decoder (depth + 2) (Json.Tree.ofJson (.object [("type", .string name), ("value", plain)])) =
      (Decoder.named Kind.all name).bind fun kind => content kind (depth + 1) (Json.Tree.ofJson plain) := by
  have entered : Json.enter (depth + 2) = .ok (depth + 1) := rfl
  have second (kind : Kind) : Decoder.Tagged.member tagged (depth + 1) "value" (Json.Tree.ofJson plain)
      (.tag kind) = (content kind (depth + 1) (Json.Tree.ofJson plain)).map .complete := by
    simp only [Decoder.Tagged.member, tagged, String.reduceEq, if_false, if_true, bind, Except.bind]
    cases content kind (depth + 1) (Json.Tree.ofJson plain) <;> rfl
  have walked : Decoder.Tagged.members tagged (depth + 1) .start
      (Json.Tree.ofMembers [("type", .string name), ("value", plain)]) =
        ((Decoder.named Kind.all name).bind fun kind =>
          content kind (depth + 1) (Json.Tree.ofJson plain)).map .complete := by
    simp only [Json.Tree.ofMembers, Decoder.Tagged.members, Json.Literal.of, bind, Except.bind, tagMet]
    cases Decoder.named Kind.all name with
    | error fault => rfl
    | ok kind =>
      simp only [Except.map, second]
      cases content kind (depth + 1) (Json.Tree.ofJson plain) <;> rfl
  simp only [decoder, Decoder.tagged, Json.Tree.ofJson, entered, walked, bind, Except.bind]
  cases Decoder.named Kind.all name with
  | error fault => rfl
  | ok kind => cases read : content kind (depth + 1) (Json.Tree.ofJson plain) <;> simp only [read] <;> rfl

theorem kindNamed (kind : Kind) : Decoder.named Kind.all kind.name = .ok kind := by
  cases kind <;> rfl

theorem taggedRead (kind : Kind) (plain : Json) (depth : Nat) :
    decoder (depth + 2) (Json.Tree.ofJson (.object [("type", .string kind.name), ("value", plain)])) =
      content kind (depth + 1) (Json.Tree.ofJson plain) := by
  rw [namedRead, kindNamed]
  rfl

theorem contentKind {k : Kind} {depth : Nat} {t : Json.Tree} {w : FeatureValue}
    (read : content k depth t = .ok w) : w.kind = k := by
  have made {α : Type} {result : Except Json.Fault α} {make : α → FeatureValue}
      (same : ∀ a, (make a).kind = k) (read : result.map make = .ok w) : w.kind = k := by
    cases result with
    | error fault => cases read
    | ok a =>
      cases read
      exact same a
  cases k <;> exact made (fun _ => rfl) read

theorem doubleRead {x : Binary64} (finite : x.isFinite = true) (depth : Nat) :
    Decoder.binary64 depth (Json.Tree.ofJson (.ofBinary64 x)) = .ok x := by
  rw [Json.ofBinary64, dif_pos finite]
  rfl

theorem plainRead {v : FeatureValue} (finite : v.Finite = true) (ordered : v.Ordered = true) {depth : Nat}
    (room : v.toPlain.height < depth) : content v.kind depth (Json.Tree.ofJson v.toPlain) = .ok v := by
  have entered {items : List Json} (room : (Json.array items).height < depth) :
      ∃ inside, Json.enter depth = .ok inside ∧ Json.heightItems items < inside :=
    Json.enterInside (by rwa [Json.height] at room)
  cases v with
  | null => rfl
  | int n => exact congrArg (Except.map int) (Format.int64.read n depth (Nat.zero_lt_of_lt room))
  | float x => exact congrArg (Except.map float) (doubleRead finite depth)
  | string s => rfl
  | bool b => rfl
  | ints items =>
    obtain ⟨inside, entered, left⟩ := entered room
    exact congrArg (Except.map ints)
      (Json.listRead entered fun n _ => Format.int64.read n inside (Nat.zero_lt_of_lt left))
  | floats items =>
    obtain ⟨inside, entered, -⟩ := entered room
    exact congrArg (Except.map floats)
      (Json.listRead entered fun x mem => doubleRead (List.all_eq_true.mp finite x mem) inside)
  | strings items =>
    obtain ⟨inside, entered, left⟩ := entered room
    exact congrArg (Except.map strings)
      (Json.listRead entered fun s _ => Format.string.read s inside (Nat.zero_lt_of_lt left))
  | json value => exact congrArg (Except.map json) (Json.jsonRead value ordered depth room)

theorem flatHeight {α : Type} {write : α → Json} (flat : ∀ a, (write a).height = 0) (items : List α) :
    (Json.array (items.map write)).height = 1 := by
  induction items with
  | nil => rfl
  | cons a items ih =>
    simp only [Json.height, List.map_cons, Json.heightItems, flat a, Nat.zero_max] at ih ⊢
    exact ih

theorem contentRead {v : FeatureValue} (storable : v.Storable = true) :
    content v.kind 127 (Json.Tree.ofJson v.toPlain) = .ok v := by
  cases v with
  | float x => simp [Storable] at storable
  | ints items => exact plainRead rfl rfl (by rw [toPlain, flatHeight fun _ => rfl]; decide)
  | floats items =>
    simp only [Storable, List.isEmpty_iff] at storable
    subst storable
    rfl
  | strings items => exact plainRead rfl rfl (by rw [toPlain, flatHeight fun _ => rfl]; decide)
  | json value =>
    simp only [Storable, Bool.and_eq_true, decide_eq_true_eq] at storable
    exact plainRead (v := json value) rfl storable.1.2 (Nat.lt_succ_of_le storable.2)
  | _ => exact plainRead rfl rfl (Nat.zero_lt_succ 126)

theorem decoderRead {v : FeatureValue} (storable : v.Storable = true) :
    decoder Json.maxDepth (Json.Tree.ofJson v.toJson) = .ok v := by
  cases v with
  | null => rfl
  | _ => exact (taggedRead _ _ 126).trans (contentRead storable)

end FeatureStore.FeatureValue

namespace FeatureStore.Redis

theorem decodeEncoded {v : FeatureValue} (storable : v.Storable = true) :
    decodeValue (encodeValue v) = .ok v := by
  simp only [decodeValue, encodeValue, Json.decodeText _ _ (FeatureValue.toJsonFloatFree storable),
    FeatureValue.decoderRead storable]

end FeatureStore.Redis

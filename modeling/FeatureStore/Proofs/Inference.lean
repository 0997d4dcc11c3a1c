import FeatureStore.Proofs.Json.Numbers
import FeatureStore.Proofs.Value

/-!
Values that are told by their bare form. A column has no place for the kind of a value, so that a reader
takes the kind from the form. `Blurred` says whose form is the one of another kind; nothing that a reader
infers is blurred, and what is not blurred comes back as it was.
-/
namespace FeatureStore.FeatureValue

inductive Blurred : FeatureValue → Prop where
  | noFloats : Blurred (floats [])
  | noStrings : Blurred (strings [])
  | null : Blurred (json .null)
  | bool (b : Bool) : Blurred (json (.bool b))
  | string (s : String) : Blurred (json (.string s))
  | number (n : Number) : Blurred (json (.number n))
  | integers (items : List Int64) : Blurred (json (.array (items.map .ofInt64)))
  | numbers (items : List Number) : Blurred (json (.array (items.map .number)))
  | texts (items : List String) : Blurred (json (.array (items.map .string)))

def nearest : Number → Binary64
  | .whole n => .ofInt n.val
  | .float x _ => x

theorem nearestFinite (n : Number) : (nearest n).isFinite = true := by
  cases n with
  | whole n =>
    have small : n.val.natAbs < 18446744073709551616 := by
      have least := n.least
      have most := n.most
      omega
    exact Json.Reader.wordFinite _ small
  | float x finite => exact finite

theorem asIntIff {j : Json} {n : Int64} : asInt? j = some n ↔ j = .ofInt64 n := by
  constructor
  · intro read
    match j with
    | .number (.whole w) =>
      simp only [asInt?, Option.ite_none_right_eq_some, Option.some.injEq] at read
      obtain ⟨small, rfl⟩ := read
      have value : (Int64.ofInt w.val).toInt = w.val := Int64.toInt_ofInt_of_le w.least small
      simp only [Json.ofInt64, WholeNumber.ofInt64, value]
  · rintro rfl
    have small : n.toInt < 9223372036854775808 := n.toInt_lt
    simp [Json.ofInt64, WholeNumber.ofInt64, asInt?, small]

theorem asFloatIff {j : Json} {x : Binary64} : asFloat? j = some x ↔ ∃ n, j = .number n ∧ nearest n = x := by
  match j with
  | .number (.whole n) => simp [asFloat?, nearest]
  | .number (.float y finite) => simp [asFloat?, nearest]
  | .null | .bool _ | .string _ | .array _ | .object _ => simp [asFloat?]

theorem asStringIff {j : Json} {s : String} : asString? j = some s ↔ j = .string s := by
  cases j <;> simp [asString?]

section Items
variable {α β : Type} {read : Json → Option β} {write : α → Json} {value : α → β}

theorem itemsRead (reads : ∀ j b, read j = some b ↔ ∃ a, j = write a ∧ value a = b) {items : List Json}
    {results : List β} : items.mapM read = some results ↔
      ∃ made : List α, items = made.map write ∧ made.map value = results := by
  induction items generalizing results with
  | nil =>
    constructor
    · rintro ⟨⟩
      exact ⟨[], rfl, rfl⟩
    · rintro ⟨made, none, rfl⟩
      rw [List.map_eq_nil_iff.mp none.symm]
      rfl
  | cons j rest ih =>
    simp only [List.mapM_cons, bind, Option.bind_eq_some_iff, reads, ih, pure, Option.some.injEq]
    constructor
    · rintro ⟨_, ⟨a, rfl, rfl⟩, _, ⟨made, rfl, rfl⟩, rfl⟩
      exact ⟨a :: made, rfl, rfl⟩
    · rintro ⟨_ | ⟨a, made⟩, whole, rfl⟩
      · cases whole
      · obtain ⟨rfl, rfl⟩ := List.cons.inj whole
        exact ⟨_, ⟨a, rfl, rfl⟩, _, ⟨made, rfl, rfl⟩, rfl⟩

end Items

theorem intsRead {items : List Json} {ns : List Int64} :
    items.mapM asInt? = some ns ↔ items = ns.map .ofInt64 := by
  have reads (j : Json) (n : Int64) : asInt? j = some n ↔ ∃ m, j = .ofInt64 m ∧ id m = n := by
    simp [asIntIff]
  simp [itemsRead reads]

theorem floatsRead {items : List Json} {xs : List Binary64} : items.mapM asFloat? = some xs ↔
    ∃ ns : List Number, items = ns.map .number ∧ ns.map nearest = xs :=
  itemsRead fun _ _ => asFloatIff

theorem stringsRead {items : List Json} {ss : List String} :
    items.mapM asString? = some ss ↔ items = ss.map .string := by
  have reads (j : Json) (s : String) : asString? j = some s ↔ ∃ t, j = .string t ∧ id t = s := by
    simp [asStringIff]
  simp [itemsRead reads]

/- What an array stands for: the first kind that all its items have, and itself if they share none. -/
inductive OfItems : List Json → FeatureValue → Prop where
  | ints (ns : List Int64) : OfItems (ns.map .ofInt64) (ints ns)
  | floats (ns : List Number) (wide : ∀ whole : List Int64, ns.map Json.number ≠ whole.map .ofInt64) :
      OfItems (ns.map .number) (floats (ns.map nearest))
  | strings (s : String) (ss : List String) : OfItems ((s :: ss).map .string) (strings (s :: ss))
  | mixed (items : List Json) (sharp : ¬ Blurred (json (.array items))) :
      OfItems items (json (.array items))

theorem ofItems (items : List Json) : OfItems items (ofPlain (.array items)) := by
  simp only [ofPlain]
  rcases noInts : items.mapM asInt? with _ | ns
  · have unread (ns : List Int64) : items ≠ ns.map .ofInt64 := fun same => by
      rw [intsRead.mpr same] at noInts
      cases noInts
    rcases noFloats : items.mapM asFloat? with _ | xs
    · rcases noStrings : items.mapM asString? with _ | ss
      · refine .mixed items fun blurred => ?_
        cases blurred with
        | integers ns => exact unread ns rfl
        | numbers ns =>
          rw [floatsRead.mpr ⟨ns, rfl, rfl⟩] at noFloats
          cases noFloats
        | texts ss =>
          rw [stringsRead.mpr rfl] at noStrings
          cases noStrings
      · obtain rfl := stringsRead.mp noStrings
        cases ss with
        | nil => exact absurd rfl (unread [])
        | cons s ss => exact .strings s ss
    · obtain ⟨ns, rfl, rfl⟩ := floatsRead.mp noFloats
      exact .floats ns unread
  · obtain rfl := intsRead.mp noInts
    exact .ints ns

theorem ofInteger (n : Int64) : ofPlain (.ofInt64 n) = int n := by
  have read : asInt? (.ofInt64 n) = some n := asIntIff.mpr rfl
  rw [Json.ofInt64] at read ⊢
  simp only [ofPlain, read]

theorem ofNumber (n : Number) :
    (∃ k, ofPlain (.number n) = int k) ∨ ofPlain (.number n) = float (nearest n) := by
  have read : asFloat? (.number n) = some (nearest n) := asFloatIff.mpr ⟨n, rfl, rfl⟩
  simp only [ofPlain, read]
  cases asInt? (.number n) with
  | none => exact .inr rfl
  | some k => exact .inl ⟨k, rfl⟩

theorem inferredSharp (j : Json) : (ofPlain j).Finite = true ∧ ¬ Blurred (ofPlain j) := by
  cases j with
  | number n =>
    rcases ofNumber n with ⟨k, same⟩ | same
    · rw [same]
      exact ⟨rfl, nofun⟩
    · rw [same]
      exact ⟨nearestFinite n, nofun⟩
  | array items =>
    have view := ofItems items
    generalize ofPlain (.array items) = v at view
    cases view with
    | ints ns => exact ⟨rfl, nofun⟩
    | floats ns wide =>
      refine ⟨List.all_eq_true.mpr fun x mem => ?_, fun blurred => ?_⟩
      · obtain ⟨n, -, rfl⟩ := List.mem_map.mp mem
        exact nearestFinite n
      · generalize named : ns.map nearest = xs at blurred
        cases blurred
        obtain rfl := List.map_eq_nil_iff.mp named
        exact wide [] rfl
    | strings s ss => exact ⟨rfl, nofun⟩
    | mixed items sharp => exact ⟨rfl, sharp⟩
  | _ => exact ⟨rfl, nofun⟩

theorem unreadFirst {α : Type} {read : Json → Option α} {j : Json} (unread : read j = none)
    (rest : List Json) : (j :: rest).mapM read = none := by
  simp [List.mapM_cons, unread]

theorem finiteNumbers {xs : List Binary64} (finite : xs.all Binary64.isFinite = true) :
    ∃ ns : List Number, xs.map Json.ofBinary64 = ns.map .number ∧ ns.map nearest = xs := by
  induction xs with
  | nil => exact ⟨[], rfl, rfl⟩
  | cons x xs ih =>
    simp only [List.all_cons, Bool.and_eq_true] at finite
    obtain ⟨ns, written, same⟩ := ih finite.2
    refine ⟨.float x finite.1 :: ns, ?_, ?_⟩
    · rw [List.map_cons, List.map_cons, written, Json.ofBinary64, dif_pos finite.1]
    · rw [List.map_cons, same, nearest]

theorem sharpBack {v : FeatureValue} (finite : v.Finite = true) (sharp : ¬ Blurred v) :
    ofPlain v.toPlain = v := by
  cases v with
  | null => rfl
  | int n => exact ofInteger n
  | float x =>
    have here : x.isFinite = true := finite
    rw [toPlain, Json.ofBinary64, dif_pos here]
    rfl
  | string s => rfl
  | bool b => rfl
  | ints items => simp only [toPlain, ofPlain, intsRead.mpr rfl]
  | floats items =>
    obtain ⟨ns, written, same⟩ := finiteNumbers finite
    have read := floatsRead.mpr ⟨ns, written, same⟩
    cases items with
    | nil => exact absurd .noFloats sharp
    | cons x xs =>
      obtain ⟨here, -⟩ := List.forall_mem_cons.mp (List.all_eq_true.mp finite)
      have notInt : asInt? (.ofBinary64 x) = none := by
        rw [Json.ofBinary64, dif_pos here]
        rfl
      simp only [toPlain, ofPlain, read]
      rw [List.map_cons, unreadFirst notInt]
  | strings items =>
    cases items with
    | nil => exact absurd .noStrings sharp
    | cons s ss =>
      simp only [toPlain, ofPlain, stringsRead.mpr rfl]
      rw [List.map_cons, unreadFirst rfl, unreadFirst rfl]
  | json value =>
    cases value with
    | null => exact absurd .null sharp
    | bool b => exact absurd (.bool b) sharp
    | string s => exact absurd (.string s) sharp
    | number n => exact absurd (.number n) sharp
    | array items =>
      have view := ofItems items
      rw [toPlain]
      generalize ofPlain (.array items) = w at view
      cases view with
      | ints ns => exact absurd (.integers ns) sharp
      | floats ns => exact absurd (.numbers ns) sharp
      | strings s ss => exact absurd (.texts (s :: ss)) sharp
      | mixed => rfl
    | object members => rfl

theorem sharpOfKind {v : FeatureValue} (same : (ofPlain v.toPlain).kind = v.kind) :
    v.Finite = true ∧ ¬ Blurred v := by
  cases v with
  | float x =>
    refine ⟨?_, by rintro ⟨⟩⟩
    by_contra infinite
    have none : ¬ x.isFinite = true := infinite
    rw [toPlain, Json.ofBinary64, dif_neg none] at same
    cases same
  | floats items =>
    have view := ofItems (items.map Json.ofBinary64)
    rw [toPlain] at same
    generalize written : items.map Json.ofBinary64 = js at view same
    generalize ofPlain (.array js) = w at view same
    cases view with
    | floats ns wide =>
      refine ⟨List.all_eq_true.mpr fun x mem => ?_, fun blurred => ?_⟩
      · have number : Json.ofBinary64 x ∈ ns.map Json.number := written ▸ List.mem_map_of_mem mem
        obtain ⟨n, -, same⟩ := List.mem_map.mp number
        by_contra infinite
        rw [Json.ofBinary64, dif_neg infinite] at same
        cases same
      · cases blurred
        exact wide [] written.symm
    | _ => cases same
  | strings items =>
    cases items with
    | nil => cases same
    | cons s ss => exact ⟨rfl, by rintro ⟨⟩⟩
  | json value =>
    refine ⟨rfl, ?_⟩
    rw [toPlain] at same
    cases value with
    | number n => rcases ofNumber n with ⟨k, number⟩ | number <;> rw [number] at same <;> cases same
    | array items =>
      have view := ofItems items
      generalize ofPlain (.array items) = w at view same
      cases view with
      | mixed items sharp => exact sharp
      | _ => cases same
    | object members => rintro ⟨⟩
    | _ => cases same
  | _ => exact ⟨rfl, by rintro ⟨⟩⟩

/-- A value is inferred from its bare form if and only if its numbers are finite and it is not blurred; every
other value comes back as one of another kind; and what has been inferred once stays as it is. -/
theorem inferredUnlessBlurred :
    (∀ v : FeatureValue, (ofPlain v.toPlain = v ↔ v.Finite = true ∧ ¬ Blurred v) ∧
      ((ofPlain v.toPlain).kind = v.kind ↔ ofPlain v.toPlain = v)) ∧
    ∀ j, ofPlain (ofPlain j).toPlain = ofPlain j := by
  refine ⟨fun v => ⟨⟨fun back => ?_, fun ⟨finite, sharp⟩ => sharpBack finite sharp⟩, fun same => ?_,
    congrArg kind⟩, fun j => ?_⟩
  · exact back ▸ inferredSharp v.toPlain
  · obtain ⟨finite, sharp⟩ := sharpOfKind same
    exact sharpBack finite sharp
  · obtain ⟨finite, sharp⟩ := inferredSharp j
    exact sharpBack finite sharp

example : ofPlain (strings []).toPlain = ints [] := rfl

end FeatureStore.FeatureValue

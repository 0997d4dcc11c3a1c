import FeatureStore.Proofs.Json.Text

/-!
Formats: a writer of values and the decoder that reads them back. A record is read field by field,
in the order in which its members are written.
-/
namespace FeatureStore.Json

/- What a format writes has no floating-point number, and its decoder reads it back wherever more
than `levels` arrays and objects may be entered. -/
structure Format (levels : Nat) (write : α → Json) (decode : Decoder α) : Prop where
  floatFree (x : α) : (write x).FloatFree = true
  read (x : α) (depth : Nat) (room : levels < depth) : decode depth (Tree.ofJson (write x)) = .ok x

theorem enterInside {levels depth : Nat} (room : levels + 1 < depth) :
    ∃ inside, enter depth = .ok inside ∧ levels < inside := by
  match depth, room with
  | depth + 2, room => exact ⟨depth + 1, rfl, by omega⟩

theorem integerRead {read : Int → Option α} {n : WholeNumber} {x : α} (held : read n.val = some x)
    {expected : String} {depth : Nat} :
    Decoder.integer expected read depth (Tree.ofJson (.number (.whole n))) = .ok x := by
  simp only [Tree.ofJson, Decoder.integer, bind, Except.bind, held]

namespace Format

theorem wider {few many : Nat} {write : α → Json} {decode : Decoder α}
    (format : Format few write decode) (more : few ≤ many) : Format many write decode :=
  ⟨format.floatFree, fun x depth room => format.read x depth (by omega)⟩

theorem mapped {levels : Nat} {write : β → Json} {decode : Decoder β}
    (format : Format levels write decode) {make : β → α} {content : α → β}
    (whole : ∀ x, make (content x) = x) :
    Format levels (fun x => write (content x)) (decode.map make) :=
  ⟨fun x => format.floatFree (content x), fun x depth room => by
    rw [Decoder.map, format.read (content x) depth room, Except.map, whole]⟩

theorem string : Format 0 Json.string Decoder.string := ⟨fun _ => rfl, fun _ _ _ => rfl⟩

theorem bool : Format 0 Json.bool Decoder.bool := ⟨fun _ => rfl, fun _ _ _ => rfl⟩

theorem int64 : Format 0 Json.ofInt64 Decoder.int64 where
  floatFree _ := rfl
  read n _ _ := by
    have bounds : -9223372036854775808 ≤ n.toInt ∧ n.toInt < 9223372036854775808 :=
      ⟨n.le_toInt, n.toInt_lt⟩
    exact integerRead (by rw [WholeNumber.ofInt64, if_pos bounds, Int64.ofInt_toInt])

theorem byte : Format 0 (fun b : UInt8 => Json.ofInt64 (.ofNat b.toNat)) Decoder.byte where
  floatFree _ := rfl
  read b _ _ := by
    have small := b.toNat_lt
    have value : (Int64.ofNat b.toNat).toInt = b.toNat := Int64.toInt_ofNat_of_lt (by omega)
    have bounds : (0 : Int) ≤ b.toNat ∧ (b.toNat : Int) < 256 := by omega
    refine integerRead ?_
    simp only [WholeNumber.ofInt64, value, if_pos bounds, Int.toNat_natCast, UInt8.ofNat_toNat]

theorem oneOf {values : List (String × α)} {name : α → String}
    (known : ∀ x, values.lookup (name x) = some x) :
    Format 0 (fun x => .string (name x)) (Decoder.oneOf values) where
  floatFree _ := rfl
  read x _ _ := by
    simp only [Tree.ofJson, Literal.of, Decoder.oneOf, Decoder.named, bind, Except.bind, known x]

end Format

theorem listItemsRead {write : α → Json} {decode : Decoder α} {depth : Nat} {xs : List α}
    (each : ∀ x ∈ xs, decode depth (Tree.ofJson (write x)) = .ok x) :
    Decoder.listItems decode depth (Tree.ofItems (xs.map write)) = .ok xs := by
  induction xs with
  | nil => rfl
  | cons x xs ih =>
    have more := ih fun y mem => each y (List.mem_cons_of_mem x mem)
    simp only [List.map_cons, Tree.ofItems, Decoder.listItems, bind, Except.bind,
      each x List.mem_cons_self, more]

theorem floatFreeItems {xs : List Json} : FloatFreeItems xs = true ↔ ∀ j ∈ xs, j.FloatFree = true := by
  induction xs with
  | nil => simp [FloatFreeItems]
  | cons j xs ih => simp [FloatFreeItems, ih]

theorem listRead {write : α → Json} {decode : Decoder α} {depth inside : Nat} {xs : List α}
    (entered : enter depth = .ok inside)
    (each : ∀ x ∈ xs, decode inside (Tree.ofJson (write x)) = .ok x) :
    Decoder.list decode depth (Tree.ofJson (.array (xs.map write))) = .ok xs := by
  simp only [Tree.ofJson, Decoder.list, bind, Except.bind, entered, listItemsRead each]
  rfl

theorem Format.list {levels : Nat} {write : α → Json} {decode : Decoder α}
    (format : Format levels write decode) :
    Format (levels + 1) (fun xs => .array (xs.map write)) (Decoder.list decode) where
  floatFree xs := by
    refine floatFreeItems.mpr fun j mem => ?_
    obtain ⟨x, -, rfl⟩ := List.mem_map.mp mem
    exact format.floatFree x
  read xs depth room := by
    obtain ⟨inside, entered, left⟩ := enterInside room
    exact listRead entered fun x _ => format.read x inside left

theorem insertedLast {key : String} {value : Json} {ms : List (String × Json)}
    (before : ∀ m ∈ ms, m.1 < key) : insertMember key value ms = ms ++ [(key, value)] := by
  induction ms with
  | nil => rfl
  | cons m ms ih =>
    have less : m.1 < key := before m List.mem_cons_self
    have more := ih fun n mem => before n (List.mem_cons_of_mem m mem)
    rw [insertMember, if_neg (String.lt_asymm less), if_pos less, more, List.cons_append]

theorem ascendingHead {m : String × Json} {ms : List (String × Json)}
    (ascending : Ascending (m :: ms) = true) : ∀ n ∈ ms, m.1 < n.1 := by
  induction ms generalizing m with
  | nil => simp
  | cons l ms ih =>
    simp only [Ascending, Bool.and_eq_true, decide_eq_true_eq] at ascending
    intro n mem
    rcases List.mem_cons.mp mem with rfl | inside
    · exact ascending.1
    · exact String.lt_trans ascending.1 (ih ascending.2 n inside)

theorem ascendingTail {m : String × Json} {ms : List (String × Json)}
    (ascending : Ascending (m :: ms) = true) : Ascending ms = true := by
  cases ms with
  | nil => rfl
  | cons l ms =>
    simp only [Ascending, Bool.and_eq_true] at ascending
    exact ascending.2

theorem insertedInOrder {held ms : List (String × Json)} (ascending : Ascending ms = true)
    (before : ∀ h ∈ held, ∀ m ∈ ms, h.1 < m.1) :
    ms.foldl (fun out m => insertMember m.1 m.2 out) held = held ++ ms := by
  induction ms generalizing held with
  | nil => simp
  | cons m ms ih =>
    have last : insertMember m.1 m.2 held = held ++ [m] :=
      insertedLast fun h mem => before h mem m List.mem_cons_self
    rw [List.foldl_cons, last, ih (ascendingTail ascending), List.append_assoc, List.singleton_append]
    intro h mem n inside
    rcases List.mem_append.mp mem with old | new
    · exact before h old n (List.mem_cons_of_mem m inside)
    · rw [List.mem_singleton.mp new]
      exact ascendingHead ascending n inside

theorem ofMembersAscending {ms : List (String × Json)} (ascending : Ascending ms = true) :
    Json.ofMembers ms = .object ms := by
  rw [Json.ofMembers, insertedInOrder ascending (by simp), List.nil_append]

mutual

theorem jsonRead : ∀ (j : Json) (_ : j.Ordered = true) (depth : Nat) (_ : j.height < depth),
    Decoder.json depth (Tree.ofJson j) = .ok j
  | .null, _, _, _ => by simp [Tree.ofJson, Decoder.json]
  | .bool b, _, _, _ => by simp [Tree.ofJson, Decoder.json]
  | .number n, _, _, _ => by simp [Tree.ofJson, Decoder.json, Except.map]
  | .string s, _, _, _ => by simp [Tree.ofJson, Decoder.json, Literal.of, Except.map]
  | .array xs, ordered, depth, room => by
    obtain ⟨inside, entered, left⟩ := enterInside (show heightItems xs + 1 < depth by simpa [height] using room)
    have read := jsonItemsRead xs (by simpa [Ordered] using ordered) inside left
    simp [Tree.ofJson, Decoder.json, bind, Except.bind, entered, read, ArrayEnd.fault?, orFault]
  | .object ms, ordered, depth, room => by
    obtain ⟨inside, entered, left⟩ := enterInside (show heightMembers ms + 1 < depth by simpa [height] using room)
    simp only [Ordered, Bool.and_eq_true] at ordered
    have read := jsonMembersRead ms ordered.2 inside left
    simp [Tree.ofJson, Decoder.json, bind, Except.bind, entered, read, ObjectEnd.fault?, orFault,
      ofMembersAscending ordered.1]

theorem jsonItemsRead : ∀ (xs : List Json) (_ : OrderedItems xs = true) (depth : Nat)
    (_ : heightItems xs < depth), Decoder.jsonItems depth (Tree.ofItems xs) = .ok xs
  | [], _, _, _ => by simp [Tree.ofItems, Decoder.jsonItems]
  | j :: xs, ordered, depth, room => by
    simp only [OrderedItems, Bool.and_eq_true] at ordered
    simp only [heightItems, Nat.max_lt] at room
    have first := jsonRead j ordered.1 depth room.1
    have more := jsonItemsRead xs ordered.2 depth room.2
    simp [Tree.ofItems, Decoder.jsonItems, bind, Except.bind, first, more]

theorem jsonMembersRead : ∀ (ms : List (String × Json)) (_ : OrderedMembers ms = true) (depth : Nat)
    (_ : heightMembers ms < depth), Decoder.jsonMembers depth (Tree.ofMembers ms) = .ok ms
  | [], _, _, _ => by simp [Tree.ofMembers, Decoder.jsonMembers]
  | (k, j) :: ms, ordered, depth, room => by
    simp only [OrderedMembers, Bool.and_eq_true] at ordered
    simp only [heightMembers, Nat.max_lt] at room
    have first := jsonRead j ordered.1 depth room.1
    have more := jsonMembersRead ms ordered.2 depth room.2
    simp [Tree.ofMembers, Decoder.jsonMembers, Literal.of, bind, Except.bind, first, more]

end

structure Bounded (height depth : Nat) (result : Except Fault α) : Prop where
  made : height < depth → ∃ a, result = .ok a
  deep : depth ≤ height → result = .error .tooDeep

namespace Bounded
variable {height depth : Nat}

theorem leaf {result : Except Fault α} (room : 0 < depth) (made : ∃ a, result = .ok a) :
    Bounded 0 depth result :=
  ⟨fun _ => made, fun none => absurd room (by omega)⟩

theorem entered {inside : Nat → Except Fault α} {make : α → β}
    (bounded : ∀ depth, 0 < depth → Bounded height depth (inside depth)) (room : 0 < depth) :
    Bounded (height + 1) depth (do .ok (make (← inside (← enter depth)))) := by
  match depth with
  | 1 => exact ⟨fun room => by omega, fun _ => rfl⟩
  | depth + 2 =>
    obtain ⟨made, deep⟩ := bounded (depth + 1) (by omega)
    constructor
    · intro room
      obtain ⟨a, read⟩ := made (by omega)
      exact ⟨make a, by simp only [enter, bind, Except.bind, read]⟩
    · intro beyond
      simp only [enter, bind, Except.bind, deep (by omega)]

theorem both {first : Except Fault α} {rest : Except Fault β} {height' : Nat} {make : α → β → γ}
    (here : Bounded height depth first) (later : Bounded height' depth rest) :
    Bounded (max height height') depth (do .ok (make (← first) (← rest))) := by
  constructor
  · intro room
    obtain ⟨a, read⟩ := here.made (by omega)
    obtain ⟨b, more⟩ := later.made (by omega)
    exact ⟨make a b, by simp only [bind, Except.bind, read, more]⟩
  · intro beyond
    rcases Nat.lt_or_ge height depth with room | deep
    · obtain ⟨a, read⟩ := here.made room
      simp only [bind, Except.bind, read, later.deep (by omega)]
    · simp only [bind, Except.bind, here.deep deep]

end Bounded

mutual

theorem jsonBounded : ∀ (j : Json) (depth : Nat) (_ : 0 < depth),
    Bounded j.height depth (Decoder.json depth (Tree.ofJson j))
  | .null, _, room => .leaf room ⟨_, by rw [Tree.ofJson, Decoder.json]⟩
  | .bool _, _, room => .leaf room ⟨_, by rw [Tree.ofJson, Decoder.json]⟩
  | .number _, _, room => .leaf room ⟨_, by rw [Tree.ofJson, Decoder.json]; rfl⟩
  | .string _, _, room => .leaf room ⟨_, by rw [Tree.ofJson, Decoder.json]; rfl⟩
  | .array xs, _, room => by
    rw [Tree.ofJson, Decoder.json, height]
    exact .entered (itemsBounded xs) room
  | .object ms, _, room => by
    rw [Tree.ofJson, Decoder.json, height]
    exact .entered (membersBounded ms) room

theorem itemsBounded : ∀ (xs : List Json) (depth : Nat) (_ : 0 < depth),
    Bounded (heightItems xs) depth (Decoder.jsonItems depth (Tree.ofItems xs))
  | [], _, room => .leaf room ⟨[], by rw [Tree.ofItems, Decoder.jsonItems]⟩
  | j :: xs, depth, room => by
    rw [Tree.ofItems, Decoder.jsonItems, heightItems]
    exact (jsonBounded j depth room).both (itemsBounded xs depth room)

theorem membersBounded : ∀ (ms : List (String × Json)) (depth : Nat) (_ : 0 < depth),
    Bounded (heightMembers ms) depth (Decoder.jsonMembers depth (Tree.ofMembers ms))
  | [], _, room => .leaf room ⟨[], by rw [Tree.ofMembers, Decoder.jsonMembers]⟩
  | (k, j) :: ms, depth, room => by
    rw [Tree.ofMembers, Decoder.jsonMembers, heightMembers]
    exact (jsonBounded j depth room).both (membersBounded ms depth room)

end

/- Members without floating-point numbers that stand in the order of the fields, which read them if no
two have one name. -/
structure Reads (fs : Decoder.Fields σ α) (depth : Nat) (members : List (String × Json)) (value : α) :
    Prop where
  floatFree : FloatFreeMembers members = true
  filled : (members.map (·.1)).Nodup →
    ∃ s, fs.ofMembers depth fs.empty (Tree.ofMembers members) = .ok s ∧ fs.collect s = .ok value

namespace Reads

theorem done {depth : Nat} : Reads .done depth [] () := ⟨rfl, fun _ => ⟨(), rfl, rfl⟩⟩

theorem passed {f : Decoder.Field β} {fs : Decoder.Fields σ α} {depth : Nat} (met : Option β)
    (members : List (String × Json)) (others : ∀ m ∈ members, m.1 ≠ f.name) (s : σ) :
    (Decoder.Fields.field f fs).ofMembers depth (met, s) (Tree.ofMembers members) =
      (fs.ofMembers depth s (Tree.ofMembers members)).map fun s => (met, s) := by
  induction members generalizing s with
  | nil => rfl
  | cons m members ih =>
    have other : m.1 ≠ f.name := others m List.mem_cons_self
    have more := ih fun n mem => others n (List.mem_cons_of_mem m mem)
    simp only [Tree.ofMembers, Decoder.Fields.ofMembers, Literal.of, bind, Except.bind,
      Decoder.Fields.field, if_neg other]
    cases fs.fill m.1 depth (Tree.ofJson m.2) s with
    | error fault => rfl
    | ok s => exact more s

theorem field {f : Decoder.Field β} {fs : Decoder.Fields σ α} {depth : Nat} {j : Json} {value : β}
    {members : List (String × Json)} {more : α} (free : j.FloatFree = true)
    (here : f.decode depth (Tree.ofJson j) = .ok value) (rest : Reads fs depth members more) :
    Reads (.field f fs) depth ((f.name, j) :: members) (value, more) := by
  refine ⟨floatFreeMembersCons.mpr ⟨free, rest.floatFree⟩, fun apart => ?_⟩
  rw [List.map_cons, List.nodup_cons] at apart
  obtain ⟨fresh, apart⟩ := apart
  obtain ⟨s, filled, collected⟩ := rest.filled apart
  have others : ∀ m ∈ members, m.1 ≠ f.name := by
    intro m mem same
    exact fresh (List.mem_map.mpr ⟨m, mem, same⟩)
  have after : (Decoder.Fields.field f fs).ofMembers depth (some value, fs.empty)
      (Tree.ofMembers members) = .ok (some value, s) := by
    rw [passed (some value) members others, filled, Except.map]
  have filling : (Decoder.Fields.field f fs).fill f.name depth (Tree.ofJson j)
      (Decoder.Fields.field f fs).empty = .ok (some value, fs.empty) := by
    simp only [Decoder.Fields.field, if_true, here, bind, Except.bind]
  refine ⟨(some value, s), ?_, ?_⟩
  · simp only [Tree.ofMembers, Decoder.Fields.ofMembers, Literal.of, bind, Except.bind, filling, after]
  · simp only [Decoder.Fields.field, Option.some_or, bind, Except.bind, collected]

theorem formatted {f : Decoder.Field β} {fs : Decoder.Fields σ α} {depth levels : Nat}
    {write : β → Json} {members : List (String × Json)} {more : α}
    (format : Format levels write f.decode) (room : levels < depth) (x : β)
    (rest : Reads fs depth members more) :
    Reads (.field f fs) depth ((f.name, write x) :: members) (x, more) :=
  field (format.floatFree x) (format.read x depth room) rest

theorem listed {name : String} {decode : Decoder β} {fs : Decoder.Fields σ α} {depth levels : Nat}
    {write : β → Json} {members : List (String × Json)} {more : α}
    (format : Format levels write decode) (room : levels + 1 < depth) (xs : List β)
    (rest : Reads fs depth members more) :
    Reads (.field (Decoder.required name (Decoder.list decode)) fs) depth
      ((name, .array (xs.map write)) :: members) (xs, more) :=
  field (format.list.floatFree xs) (format.list.read xs depth room) rest

end Reads

theorem recordRead {fs : Decoder.Fields σ α} {depth inside : Nat} {members : List (String × Json)}
    {value : α} (entered : enter depth = .ok inside) (reads : Reads fs inside members value)
    (apart : (members.map (·.1)).Nodup) (title : String) (make : α → β) :
    Decoder.record title fs make depth (Tree.ofJson (.object members)) = .ok (make value) := by
  obtain ⟨s, filled, collected⟩ := reads.filled apart
  simp only [Tree.ofJson, Decoder.record, bind, Except.bind, entered, filled, orFault,
    ObjectEnd.fault?, collected, Except.map]

theorem Format.record {levels : Nat} {fs : Decoder.Fields σ α} {make : α → β} {content : β → α}
    {members : β → List (String × Json)} (title : String) (whole : ∀ x, make (content x) = x)
    (apart : ∀ x, ((members x).map (·.1)).Nodup)
    (reads : ∀ x depth, levels < depth → Reads fs depth (members x) (content x)) :
    Format (levels + 1) (fun x => .object (members x)) (Decoder.record title fs make) where
  floatFree x := (reads x (levels + 1) (by omega)).floatFree
  read x depth room := by
    obtain ⟨inside, entered, left⟩ := enterInside room
    rw [recordRead entered (reads x inside left) (apart x), whole]

end FeatureStore.Json

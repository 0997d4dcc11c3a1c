import FeatureStore.Proofs.Online.Client
import FeatureStore.Proofs.Online.Local

/-!
The names of online tables. A table is kept under the one text that joins the feature and the variant,
so two pairs that are joined to the same text share their table.
-/
namespace FeatureStore

abbrev FeatureVariant := String × String

namespace OnlineCall

def keyOf (p : FeatureVariant) : String := onlineTableKey "" p.1 p.2

def creates? : OnlineCall → Option FeatureVariant
  | createTable feature variant _ => some (feature, variant)
  | _ => none

def finds? : OnlineCall → Option FeatureVariant
  | getTable feature variant => some (feature, variant)
  | _ => none

def drops? : OnlineCall → Option FeatureVariant
  | deleteTable feature variant => some (feature, variant)
  | _ => none

abbrev Log := List (OnlineCall × OnlineAnswer)

def Stands (named : FeatureVariant → Prop) (log : Log) : Prop :=
  ∃ before created after, log = before ++ (created, .done) :: after ∧
    (∃ p, created.creates? = some p ∧ named p) ∧
    ∀ e ∈ after, ∀ p, e.1.drops? = some p → named p → e.2 ≠ .done

theorem standsNever (named : FeatureVariant → Prop) : ¬ Stands named [] := by
  rintro ⟨before, created, after, same, -⟩
  simp at same

theorem standsNext {named : FeatureVariant → Prop} {log : Log} {e : OnlineCall × OnlineAnswer} :
    Stands named (log ++ [e]) ↔
      (e.2 = .done ∧ ∃ p, e.1.creates? = some p ∧ named p) ∨
        Stands named log ∧ ∀ p, e.1.drops? = some p → named p → e.2 ≠ .done := by
  constructor
  · rintro ⟨before, created, after, same, creates, kept⟩
    rcases List.eq_nil_or_concat after with rfl | ⟨between, last, rfl⟩
    · obtain ⟨-, last⟩ := List.append_inj' same rfl
      obtain rfl := List.singleton_inj.mp last
      exact .inl ⟨rfl, creates⟩
    · rw [List.concat_eq_append] at kept
      have split : log ++ [e] = (before ++ (created, .done) :: between) ++ [last] := by simp [same]
      obtain ⟨rfl, ends⟩ := List.append_inj' split rfl
      obtain rfl := List.singleton_inj.mp ends
      refine .inr ⟨⟨before, created, between, rfl, creates, fun e mem => kept e ?_⟩, kept e ?_⟩
      · simp [mem]
      · simp
  · rintro (⟨done, creates⟩ | ⟨⟨before, created, after, rfl, creates, kept⟩, spared⟩)
    · exact ⟨log, e.1, [], by rw [← done], creates, by simp⟩
    · refine ⟨before, created, after ++ [e], by simp, creates, fun other mem => ?_⟩
      rcases List.mem_append.mp mem with old | new
      · exact kept other old
      · rw [List.mem_singleton.mp new]
        exact spared

/- How a call on a table answers after others, when `named p` are the pairs that share the table of
`p`. -/
structure Answered (named : FeatureVariant → FeatureVariant → Prop) (log : Log) (call : OnlineCall)
    (answer : OnlineAnswer) : Prop where
  created {p : FeatureVariant} : call.creates? = some p →
    (¬ Stands (named p) log ∧ answer = .done) ∨
      Stands (named p) log ∧ answer = .failed (.error (.alreadyExists "online table" (keyOf p)))
  found {p : FeatureVariant} : call.finds? = some p →
    (Stands (named p) log ∧ answer = .done) ∨
      ¬ Stands (named p) log ∧ answer = .failed (.error (.notFound "online table" (keyOf p)))
  dropped {p : FeatureVariant} : call.drops? = some p →
    (Stands (named p) log ∧ answer = .done) ∨
      ¬ Stands (named p) log ∧ answer = .failed (.error (.notFound "online table" (keyOf p)))

def Law (named : FeatureVariant → FeatureVariant → Prop) (log : Log) : Prop :=
  ∀ i call answer, log[i]? = some (call, answer) → Answered named (log.take i) call answer

def Inner (table : OnlineTable (StateM LocalStore)) : Prop :=
  ∀ s, (∀ entity value, ((table.set entity value).on s).2.names = s.names ∧
      ((table.set entity value).on s).2.tables.length = s.tables.length) ∧
    (∀ entity, ((table.get entity).on s).2.names = s.names ∧
      ((table.get entity).on s).2.tables.length = s.tables.length) ∧
    ∀ records, ((table.setBatch records).on s).2.names = s.names ∧
      ((table.setBatch records).on s).2.tables.length = s.tables.length

theorem handleInner (dims : Option Nat) (place : Nat) (t : LocalTable) :
    Inner (LocalStore.handle dims place t) := by
  intro s
  cases t with
  | values entries =>
    simp only [LocalStore.handle]
    refine ⟨fun entity value => ?_, fun entity => ?_, fun records => ?_⟩
    · simp [LocalStore.setOn]
    · rw [LocalStore.getOn]
      split <;> simp
    · simp [LocalStore.setBatchOn]
  | vectors => exact ⟨fun _ _ => ⟨rfl, rfl⟩, fun _ => ⟨rfl, rfl⟩, fun _ => ⟨rfl, rfl⟩⟩

structure Tracks (log : Log) (held : List (Option (OnlineTable (StateM LocalStore))))
    (s : LocalStore) : Prop where
  listed (key : String) : s.names.contains key = true ↔ Stands (fun q => keyOf q = key) log
  placed {key : String} {place : Nat} : s.names.find? key = some place → place < s.tables.length
  inner {table : OnlineTable (StateM LocalStore)} : some table ∈ held → Inner table

def SameKey (p q : FeatureVariant) : Prop := keyOf q = keyOf p

variable {dims : Option Nat} {log : Log} {held : List (Option (OnlineTable (StateM LocalStore)))}
  {s after : LocalStore} {call : OnlineCall} {answer : OnlineAnswer}
  {handle : Option (OnlineTable (StateM LocalStore))}

theorem Tracks.start : Tracks [] [] .empty where
  listed key := by simp [LocalStore.empty, Bindings.contains, standsNever]
  placed named := by simp [LocalStore.empty] at named
  inner given := by simp at given

theorem Tracks.tableNamed (tracks : Tracks log held s) (p : FeatureVariant) :
    (∃ place t, Stands (SameKey p) log ∧ s.tableNamed? (keyOf p) = some (place, t)) ∨
      ¬ Stands (SameKey p) log ∧ s.tableNamed? (keyOf p) = none := by
  have listed : _ ↔ Stands (SameKey p) log := tracks.listed (keyOf p)
  cases named : s.names.find? (keyOf p) with
  | none => exact .inr ⟨by simpa [Bindings.contains, named] using listed, LocalStore.tableNamedNone named⟩
  | some place =>
    have there := List.getElem?_eq_getElem (tracks.placed named)
    exact .inl ⟨_, _, by simpa [Bindings.contains, named] using listed,
      LocalStore.tableNamedIff.mpr ⟨named, there⟩⟩

theorem Tracks.heldNext (tracks : Tracks log held s) (new : ∀ table, handle = some table → Inner table)
    {table : OnlineTable (StateM LocalStore)} (given : some table ∈ held ++ [handle]) : Inner table := by
  rcases List.mem_append.mp given with old | last
  · exact tracks.inner old
  · exact new table (List.mem_singleton.mp last).symm

theorem Tracks.idle (tracks : Tracks log held s)
    (idle : answer = .done → call.creates? = none ∧ call.drops? = none)
    (names : after.names = s.names) (places : after.tables.length = s.tables.length)
    (new : ∀ table, handle = some table → Inner table) :
    Tracks (log ++ [(call, answer)]) (held ++ [handle]) after where
  listed key := by
    rw [names, tracks.listed, standsNext]
    constructor
    · refine fun stands => .inr ⟨stands, fun p drops _ done => ?_⟩
      simp [(idle done).2] at drops
    · rintro (⟨done, p, creates, -⟩ | ⟨stands, -⟩)
      · simp [(idle done).1] at creates
      · exact stands
  placed named := by
    rw [names] at named
    rw [places]
    exact tracks.placed named
  inner := tracks.heldNext new

def Stepped (dims : Option Nat) (log : Log) (held : List (Option (OnlineTable (StateM LocalStore))))
    (s : LocalStore) (call : OnlineCall) : Prop :=
  ∃ answer handle after, (perform (LocalStore.store dims) held call).run s = ((answer, handle), after) ∧
    Answered SameKey log call answer ∧ Tracks (log ++ [(call, answer)]) (held ++ [handle]) after

theorem createTableStepped (dims : Option Nat) (tracks : Tracks log held s) (feature variant : String)
    (type : ValueType) : Stepped dims log held s (.createTable feature variant type) := by
  have ran := LocalStore.createTableOn dims feature variant type s
  have performed := Task.onAnswer opened (LocalStore.createTable dims feature variant type) s
  have listed : _ ↔ Stands (SameKey (feature, variant)) log := tracks.listed (keyOf (feature, variant))
  have key : onlineTableKey "" feature variant = keyOf (feature, variant) := rfl
  rw [key] at ran
  cases taken : s.names.contains (keyOf (feature, variant)) with
  | true =>
    rw [taken, if_pos rfl] at ran
    rw [ran] at performed
    refine ⟨_, _, _, performed, ⟨?_, nofun, nofun⟩, tracks.idle nofun rfl rfl nofun⟩
    rintro p ⟨⟩
    exact .inr ⟨listed.mp taken, rfl⟩
  | false =>
    rw [taken, if_neg (by decide)] at ran
    rw [ran] at performed
    refine ⟨_, _, _, performed, ⟨?_, nofun, nofun⟩, ?_, ?_, tracks.heldNext ?_⟩
    · rintro p ⟨⟩
      refine .inl ⟨fun stands => ?_, rfl⟩
      simp [listed.mpr stands] at taken
    · intro other
      simp only [standsNext, creates?, drops?, Bindings.contains, Bindings.findInsert]
      have before := tracks.listed other
      rw [Bindings.contains] at before
      by_cases same : keyOf (feature, variant) = other
      · simp [same]
      · simp [same, before]
    · intro other place named
      simp only [Bindings.findInsert, List.length_append, List.length_singleton] at named ⊢
      split at named
      · cases named
        omega
      · have := tracks.placed named
        omega
    · rintro table ⟨⟩
      exact handleInner _ _ _

theorem getTableStepped (dims : Option Nat) (tracks : Tracks log held s) (feature variant : String) :
    Stepped dims log held s (.getTable feature variant) := by
  have ran := LocalStore.getTableOn dims feature variant s
  have performed := Task.onAnswer opened (LocalStore.getTable dims feature variant) s
  have key : onlineTableKey "" feature variant = keyOf (feature, variant) := rfl
  rw [key] at ran
  rcases tracks.tableNamed (feature, variant) with ⟨place, t, stands, named⟩ | ⟨absent, free⟩
  · rw [named] at ran
    simp only [ran] at performed
    refine ⟨_, _, _, performed, ⟨nofun, ?_, nofun⟩, tracks.idle (fun _ => ⟨rfl, rfl⟩) rfl rfl ?_⟩
    · rintro p ⟨⟩
      exact .inl ⟨stands, rfl⟩
    · rintro table ⟨⟩
      exact handleInner _ _ _
  · rw [free] at ran
    simp only [ran] at performed
    refine ⟨_, _, _, performed, ⟨nofun, ?_, nofun⟩, tracks.idle nofun rfl rfl nofun⟩
    rintro p ⟨⟩
    exact .inr ⟨absent, rfl⟩

theorem deleteTableStepped (dims : Option Nat) (tracks : Tracks log held s) (feature variant : String) :
    Stepped dims log held s (.deleteTable feature variant) := by
  have ran := LocalStore.deleteTableOn feature variant s
  have performed := Task.onAnswer (closed (m := StateM LocalStore)) (LocalStore.deleteTable feature variant) s
  have listed : _ ↔ Stands (SameKey (feature, variant)) log := tracks.listed (keyOf (feature, variant))
  have key : onlineTableKey "" feature variant = keyOf (feature, variant) := rfl
  rw [key] at ran
  cases taken : s.names.contains (keyOf (feature, variant)) with
  | false =>
    rw [taken, if_neg (by decide)] at ran
    rw [ran] at performed
    refine ⟨_, _, _, performed, ⟨nofun, nofun, ?_⟩, tracks.idle nofun rfl rfl nofun⟩
    rintro p ⟨⟩
    refine .inr ⟨fun stands => ?_, rfl⟩
    simp [listed.mpr stands] at taken
  | true =>
    rw [taken, if_pos rfl] at ran
    rw [ran] at performed
    refine ⟨_, _, _, performed, ⟨nofun, nofun, ?_⟩, ?_, ?_,
      tracks.heldNext (by rintro table ⟨⟩)⟩
    · rintro p ⟨⟩
      exact .inl ⟨listed.mp taken, rfl⟩
    · intro other
      simp only [standsNext, creates?, drops?, Bindings.contains, Bindings.findErase]
      have before := tracks.listed other
      rw [Bindings.contains] at before
      by_cases same : keyOf (feature, variant) = other
      · simp [same]
      · simp [same, before]
    · intro other place named
      simp only [Bindings.findErase] at named
      split at named
      · cases named
      · exact tracks.placed named

theorem innerStepped (tracks : Tracks log held s) {number : Nat}
    {use : OnlineTable (StateM LocalStore) →
      StateM LocalStore (OnlineAnswer × Option (OnlineTable (StateM LocalStore)))}
    (throughHandle : perform (LocalStore.store dims) held call = through held number use)
    (other : call.creates? = none ∧ call.finds? = none ∧ call.drops? = none)
    (leaves : ∀ table, Inner table → ((use table).run s).1.2 = none ∧
      ((use table).run s).2.names = s.names ∧ ((use table).run s).2.tables.length = s.tables.length) :
    Stepped dims log held s call := by
  obtain ⟨creates, finds, drops⟩ := other
  have law (answer : OnlineAnswer) : Answered SameKey log call answer :=
    ⟨by simp [creates], by simp [finds], by simp [drops]⟩
  rw [Stepped, throughHandle, through]
  rcases given : held[number]?.join with _ | table
  · exact ⟨_, _, _, rfl, law _, tracks.idle (fun _ => ⟨creates, drops⟩) rfl rfl nofun⟩
  · have mem : some table ∈ held := List.mem_of_getElem? (Option.join_eq_some_iff.mp given)
    obtain ⟨none, names, places⟩ := leaves table (tracks.inner mem)
    exact ⟨_, _, _, rfl, law _, tracks.idle (fun _ => ⟨creates, drops⟩) names places fun other gave =>
      absurd (none.symm.trans gave) nofun⟩

theorem stepped (dims : Option Nat) (tracks : Tracks log held s) (call : OnlineCall) :
    Stepped dims log held s call := by
  cases call with
  | createTable feature variant type => exact createTableStepped dims tracks feature variant type
  | getTable feature variant => exact getTableStepped dims tracks feature variant
  | deleteTable feature variant => exact deleteTableStepped dims tracks feature variant
  | set number entity value =>
    exact innerStepped tracks rfl ⟨rfl, rfl, rfl⟩ fun table inner =>
      ⟨closedNone _, (inner s).1 entity value⟩
  | get number entity =>
    exact innerStepped tracks rfl ⟨rfl, rfl, rfl⟩ fun table inner =>
      ⟨congrArg (·.2) (valuedShown (m := StateM LocalStore) _), (inner s).2.1 entity⟩
  | setBatch number records =>
    exact innerStepped tracks rfl ⟨rfl, rfl, rfl⟩ fun table inner =>
      ⟨closedNone _, (inner s).2.2 records⟩

def logOf (dims : Option Nat) (calls : List OnlineCall) : Log :=
  calls.zip ((answers (LocalStore.store dims) calls).run LocalStore.empty).1

theorem Law.next {named : FeatureVariant → FeatureVariant → Prop} (law : Law named log)
    (answered : Answered named log call answer) : Law named (log ++ [(call, answer)]) := by
  intro i other reply found
  rcases Nat.lt_trichotomy i log.length with old | here | beyond
  · rw [List.getElem?_append_left old] at found
    rw [List.take_append_of_le_length (Nat.le_of_lt old)]
    exact law i other reply found
  · subst here
    rw [List.getElem?_concat_length] at found
    cases found
    rwa [List.take_left]
  · have none : (log ++ [(call, answer)])[i]? = none := by
      rw [List.getElem?_eq_none_iff, List.length_append]
      exact beyond
    rw [none] at found
    cases found

theorem lawFrom (dims : Option Nat) (tracks : Tracks log held s) (law : Law SameKey log) (rest : List OnlineCall) :
    ∃ answers after, (answersFrom (LocalStore.store dims) held rest).run s = (answers, after) ∧
      answers.length = rest.length ∧ Law SameKey (log ++ rest.zip answers) := by
  induction rest generalizing log held s with
  | nil => exact ⟨[], s, rfl, rfl, by simpa using law⟩
  | cons call rest ih =>
    obtain ⟨answer, handle, after, performed, answered, next⟩ := stepped dims tracks call
    obtain ⟨more, last, ran, length, laws⟩ := ih next (law.next answered)
    refine ⟨answer :: more, last, ?_, by simp [length], by simpa using laws⟩
    have split : (answersFrom (LocalStore.store dims) held (call :: rest)).run s =
        let first := (perform (LocalStore.store dims) held call).run s
        let others := (answersFrom (LocalStore.store dims) (held ++ [first.1.2]) rest).run first.2
        (first.1.1 :: others.1, others.2) := rfl
    simp only [split, performed, ran]

/-! Pairs whose text no other pair of the calls has. -/

def pair? (call : OnlineCall) : Option FeatureVariant := call.creates? <|> call.finds? <|> call.drops?

def Unshared (calls : List OnlineCall) : Prop :=
  ∀ first ∈ calls, ∀ p, first.pair? = some p → ∀ second ∈ calls, ∀ q, second.pair? = some q →
    keyOf p = keyOf q → p = q

theorem pairOfCreates {p : FeatureVariant} (creates : call.creates? = some p) : call.pair? = some p := by
  simp [pair?, creates]

theorem pairOfFinds {p : FeatureVariant} (finds : call.finds? = some p) : call.pair? = some p := by
  cases call <;> simp_all [pair?, creates?, finds?]

theorem pairOfDrops {p : FeatureVariant} (drops : call.drops? = some p) : call.pair? = some p := by
  cases call <;> simp_all [pair?, creates?, finds?, drops?]

theorem Stands.same {named others : FeatureVariant → Prop}
    (same : ∀ e ∈ log, ∀ q, e.1.pair? = some q → (named q ↔ others q)) (stands : Stands named log) :
    Stands others log := by
  obtain ⟨before, created, after, rfl, ⟨p, creates, isNamed⟩, kept⟩ := stands
  refine ⟨before, created, after, rfl, ⟨p, creates, ?_⟩, fun e mem q drops isOther => ?_⟩
  · exact (same (created, .done) (by simp) p (pairOfCreates creates)).mp isNamed
  · exact kept e mem q drops ((same e (by simp [mem]) q (pairOfDrops drops)).mpr isOther)

theorem Law.unshared (law : Law SameKey log) (unshared : Unshared (log.map (·.1))) :
    Law (· = ·) log := by
  intro i call answer found
  have inside : call ∈ log.map (·.1) := List.mem_map_of_mem (List.mem_of_getElem? found)
  have same {p : FeatureVariant} (named : call.pair? = some p) :
      Stands (SameKey p) (log.take i) ↔ Stands (p = ·) (log.take i) := by
    have agree : ∀ e ∈ log.take i, ∀ q, e.1.pair? = some q → (SameKey p q ↔ p = q) := by
      refine fun e mem q other => ⟨fun shared => ?_, fun same => by rw [SameKey, same]⟩
      exact unshared call inside p named e.1 (List.mem_map_of_mem (List.mem_of_mem_take mem)) q other
        shared.symm
    exact ⟨.same agree, .same fun e mem q other => (agree e mem q other).symm⟩
  obtain ⟨created, found, dropped⟩ := law i call answer found
  refine ⟨fun {p} creates => ?_, fun {p} finds => ?_, fun {p} drops => ?_⟩
  · rw [← same (pairOfCreates creates)]
    exact created creates
  · rw [← same (pairOfFinds finds)]
    exact found finds
  · rw [← same (pairOfDrops drops)]
    exact dropped drops

def Plain (feature : String) : Prop := ¬ ['_', '_'] <:+: feature.toList ++ ['_']

theorem plainStart {feature more variant other : List Char}
    (plain : ¬ ['_', '_'] <:+: feature ++ more ++ ['_'])
    (same : '_' :: '_' :: variant = more ++ '_' :: '_' :: other) : more = [] := by
  rcases more with _ | ⟨c, _ | ⟨d, more⟩⟩
  · rfl
  · obtain ⟨rfl, -⟩ := List.cons.inj same
    exact absurd ⟨feature, [], by simp⟩ plain
  · simp only [List.cons_append, List.cons.injEq] at same
    obtain ⟨rfl, rfl, -⟩ := same
    exact absurd ⟨feature, more ++ ['_'], by simp⟩ plain

theorem plainApart {p q : FeatureVariant} (plain : Plain p.1 ∧ Plain q.1) (same : keyOf p = keyOf q) :
    p = q := by
  obtain ⟨⟨feature, variant⟩, ⟨other, otherVariant⟩⟩ := p, q
  have chars : feature.toList ++ '_' :: '_' :: variant.toList =
      other.toList ++ '_' :: '_' :: otherVariant.toList := by
    simpa [keyOf, onlineTableKey] using congrArg String.toList same
  have features : feature.toList = other.toList := by
    rcases List.append_eq_append_iff.mp chars with ⟨more, longer, rest⟩ | ⟨more, longer, rest⟩
    · have plainOther := plain.2
      rw [Plain, longer] at plainOther
      rw [longer, plainStart plainOther rest, List.append_nil]
    · have plainFirst := plain.1
      rw [Plain, longer] at plainFirst
      rw [longer, plainStart plainFirst rest, List.append_nil]
  rw [features] at chars
  have variants : variant.toList = otherVariant.toList := by simpa using chars
  rw [String.toList_inj.mp features, String.toList_inj.mp variants]

theorem plainUnshared {calls : List OnlineCall}
    (plain : ∀ call ∈ calls, ∀ p, call.pair? = some p → Plain p.1) : Unshared calls :=
  fun first mem p named second memOther q namedOther same =>
    plainApart ⟨plain first mem p named, plain second memOther q namedOther⟩ same

/-- A call succeeds or fails by what was done before to the pairs with its text, and by what was done to
its own pair when the calls have no other with that text. -/
theorem tablesByKey (dims : Option Nat) (calls : List OnlineCall) :
    (logOf dims calls).map (·.1) = calls ∧ Law SameKey (logOf dims calls) ∧
      (Unshared calls → Law (· = ·) (logOf dims calls)) := by
  obtain ⟨answers, after, ran, length, law⟩ :=
    lawFrom dims .start (fun i call answer found => by simp at found) calls
  have log : logOf dims calls = calls.zip answers := by
    rw [logOf, OnlineCall.answers, ran]
  have whole : (logOf dims calls).map (·.1) = calls := by
    rw [log, List.map_fst_zip (by omega)]
  rw [List.nil_append, ← log] at law
  exact ⟨whole, law, fun unshared => law.unshared (whole.symm ▸ unshared)⟩

theorem tablesByKeyLifecycle :
    let calls := [.createTable "balance" "v1" .int, .getTable "balance" "v2",
      .deleteTable "balance" "v1", .getTable "balance" "v1"]
    Unshared calls ∧ Law (· = ·) (logOf none calls) ∧
      (logOf none calls).map (·.2) = [.done,
        .failed (.error (.notFound "online table" "balance__v2")), .done,
        .failed (.error (.notFound "online table" "balance__v1"))] := by
  intro calls
  have plain : ∀ call ∈ calls, ∀ p, call.pair? = some p → Plain p.1 := by
    have balance : Plain "balance" := by
      rw [Plain]
      decide +kernel
    simpa [calls, pair?, creates?, finds?, drops?] using balance
  have apart := plainUnshared plain
  exact ⟨apart, (tablesByKey none calls).2.2 apart, rfl⟩

theorem pairsShareTable :
    ¬ Law (· = ·) (logOf none [.createTable "a__b" "c" .int, .getTable "a" "b__c"]) := by
  intro law
  have first : (logOf none [.createTable "a__b" "c" .int, .getTable "a" "b__c"]).take 1 =
      [] ++ [(.createTable "a__b" "c" .int, .done)] := rfl
  have second := law 1 (.getTable "a" "b__c") .done rfl
  rw [first] at second
  rcases second.found rfl with ⟨stands, -⟩ | ⟨-, failed⟩
  · rcases standsNext.mp stands with ⟨-, p, creates, same⟩ | ⟨before, -⟩
    · simp [creates?, ← same] at creates
    · exact standsNever _ before
  · cases failed

end OnlineCall
end FeatureStore

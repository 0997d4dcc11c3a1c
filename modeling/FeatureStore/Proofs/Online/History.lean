import FeatureStore.Proofs.Online.Client
import FeatureStore.Proofs.Online.Embedding

/-!
What a history of calls says about the tables of an online store: which tables were made, which table a
name and a handle lead to, and what was written through the handles of a table. Nothing here looks at a
store; a history holds the calls and their answers, the newest first.
-/
namespace FeatureStore
open OnlineCall Bindings

structure MadeTable where
  place : Nat
  type : ValueType

namespace MadeTable

def Pooled (dims : Option Nat) (m : MadeTable) : Prop := m.type = .floatVector ∧ dims.isSome

instance (dims : Option Nat) (m : MadeTable) : Decidable (m.Pooled dims) :=
  inferInstanceAs (Decidable (_ ∧ _))

def taken (dims : Option Nat) (m : MadeTable) (records : List (String × FeatureValue)) :
    List (String × List Binary64) :=
  if m.Pooled dims then EmbeddingStore.kept (dims.getD 0) records else []

variable {dims : Option Nat} {m : MadeTable}

theorem takenOwn (own : ¬ m.Pooled dims) (records : List (String × FeatureValue)) :
    m.taken dims records = [] := if_neg own

theorem takenFrom {records : List (String × FeatureValue)} {v : String × List Binary64}
    (mem : v ∈ m.taken dims records) : m.Pooled dims ∧ ∃ r ∈ records, r.1 = v.1 := by
  rw [taken] at mem
  split at mem
  · rename_i pooled
    obtain ⟨r, inside, rfl⟩ := List.mem_map.mp mem
    exact ⟨pooled, r, (List.takeWhile_prefix _).subset inside, rfl⟩
  · cases mem

end MadeTable

abbrev OnlineHistory := List (OnlineCall × OnlineAnswer)

namespace OnlineHistory

def made : OnlineHistory → List ValueType
  | [] => []
  | (.createTable _ _ type, .done) :: before => made before ++ [type]
  | _ :: before => made before

def standing (name : String) : OnlineHistory → Option MadeTable
  | [] => none
  | (.createTable feature variant type, .done) :: before =>
    if onlineTableKey "" feature variant = name then some ⟨(made before).length, type⟩
    else standing name before
  | (.deleteTable feature variant, .done) :: before =>
    if onlineTableKey "" feature variant = name then none else standing name before
  | _ :: before => standing name before

def gives? (before : OnlineHistory) : OnlineCall × OnlineAnswer → Option MadeTable
  | (.createTable _ _ type, .done) => some ⟨(made before).length, type⟩
  | (.getTable feature variant, .done) => standing (onlineTableKey "" feature variant) before
  | _ => none

def leads (number : Nat) : OnlineHistory → Option MadeTable
  | [] => none
  | e :: before => if number = before.length then gives? before e else leads number before

def reached? (call : OnlineCall) (before : OnlineHistory) : Option MadeTable :=
  call.handle?.bind fun number => leads number before

def written (place : Nat) : OnlineHistory → List (String × FeatureValue)
  | [] => []
  | (call, _) :: before =>
    if (reached? call before).map (·.place) = some place then written place before ++ call.records
    else written place before

def vectors (dims : Option Nat) : OnlineHistory → List (String × List Binary64)
  | [] => []
  | (call, _) :: before =>
    match reached? call before with
    | some m => vectors dims before ++ m.taken dims call.records
    | none => vectors dims before

/- What a table has for an entity, when `initial` are the vectors that were there before. -/
def contents? (dims : Option Nat) (initial : Vectors) (h : OnlineHistory) (m : MadeTable)
    (entity : String) : Option FeatureValue :=
  if m.Pooled dims then ((last? (vectors dims h) entity).or (initial.find? entity)).map .floats
  else last? (written m.place h) entity

variable {h : OnlineHistory} {e : OnlineCall × OnlineAnswer} {m : MadeTable} {dims : Option Nat}

theorem madeNext (e : OnlineCall × OnlineAnswer) (h : OnlineHistory) : made h <+: made (e :: h) := by
  rw [made.eq_def (e :: h)]
  split <;> rename_i same <;> cases same
  · exact List.prefix_append _ _
  · exact List.prefix_rfl

theorem madeStays (e : OnlineCall × OnlineAnswer) {place : Nat} {type : ValueType}
    (there : (made h)[place]? = some type) : (made (e :: h))[place]? = some type := by
  obtain ⟨later, longer⟩ := madeNext e h
  rw [← longer, List.getElem?_append_left (List.getElem?_eq_some_iff.mp there).1, there]

theorem standingMade {name : String} (stands : standing name h = some m) :
    (made h)[m.place]? = some m.type := by
  induction h with
  | nil => cases stands
  | cons e h ih =>
    rw [standing.eq_def] at stands
    split at stands <;> rename_i same <;> cases same
    · split at stands
      · cases stands
        simp [made]
      · exact madeStays _ (ih stands)
    · split at stands
      · cases stands
      · exact ih stands
    · exact madeStays _ (ih stands)

theorem leadsMade {number : Nat} (led : leads number h = some m) : (made h)[m.place]? = some m.type := by
  induction h with
  | nil => cases led
  | cons e h ih =>
    rw [leads] at led
    split at led
    · rw [gives?.eq_def] at led
      split at led
      · cases led
        simp [made]
      · exact madeStays _ (standingMade led)
      · cases led
    · exact madeStays _ (ih led)

theorem reachedMade {call : OnlineCall} (reached : reached? call h = some m) :
    (made h)[m.place]? = some m.type := by
  obtain ⟨number, -, led⟩ := Option.bind_eq_some_iff.mp reached
  exact leadsMade led

theorem writtenUnmade {place : Nat} (unmade : (made h).length ≤ place) : written place h = [] := by
  induction h with
  | nil => rfl
  | cons e h ih =>
    have before : (made h).length ≤ place := Nat.le_trans (madeNext e h).length_le unmade
    rw [written, if_neg, ih before]
    -- A handle leads to a table that is made already.
    intro reaches
    obtain ⟨m, reached, rfl⟩ := Option.map_eq_some_iff.mp reaches
    have inside := (List.getElem?_eq_some_iff.mp (reachedMade reached)).1
    omega

theorem writtenNext (place : Nat) (e : OnlineCall × OnlineAnswer) (h : OnlineHistory) :
    written place h <+: written place (e :: h) := by
  rw [written]
  split
  · exact List.prefix_append _ _
  · exact List.prefix_rfl

theorem writtenReached (reached : reached? e.1 h = some m) :
    written m.place (e :: h) = written m.place h ++ e.1.records := by
  rw [written, reached, Option.map_some, if_pos rfl]

theorem vectorsReached (reached : reached? e.1 h = some m) :
    vectors dims (e :: h) = vectors dims h ++ m.taken dims e.1.records := by
  rw [vectors, reached]

theorem writtenApart {place : Nat} (apart : ∀ m, reached? e.1 h = some m → m.place ≠ place) :
    written place (e :: h) = written place h := by
  rw [written, if_neg]
  intro reaches
  obtain ⟨m, reached, same⟩ := Option.map_eq_some_iff.mp reaches
  exact apart m reached same

theorem vectorsApart (apart : ∀ m, reached? e.1 h = some m → ¬ m.Pooled dims) :
    vectors dims (e :: h) = vectors dims h := by
  rw [vectors]
  split
  · rename_i m reached
    rw [m.takenOwn (apart m reached), List.append_nil]
  · rfl

theorem vectorWritten {v : String × List Binary64} (mem : v ∈ vectors dims h) :
    ∃ place, (made h)[place]? = some .floatVector ∧ ∃ r ∈ written place h, r.1 = v.1 := by
  induction h with
  | nil => cases mem
  | cons e h ih =>
    have older (old : v ∈ vectors dims h) :
        ∃ place, (made (e :: h))[place]? = some .floatVector ∧ ∃ r ∈ written place (e :: h), r.1 = v.1 := by
      obtain ⟨place, there, r, inside, same⟩ := ih old
      exact ⟨place, madeStays e there, r, (writtenNext place e h).subset inside, same⟩
    rw [vectors] at mem
    split at mem
    · rename_i m reached
      rcases List.mem_append.mp mem with old | new
      · exact older old
      · -- The record goes through a handle of a table of vectors, where it counts as written.
        obtain ⟨pooled, r, inside, same⟩ := m.takenFrom new
        have there := madeStays e (reachedMade reached)
        rw [pooled.1] at there
        refine ⟨m.place, there, r, ?_, same⟩
        rw [writtenReached reached]
        exact List.mem_append_right _ inside
    · exact older mem

theorem handledSame {call : OnlineCall} {number : Nat} (handled : call.handle? = some number)
    (answer : OnlineAnswer) :
    made ((call, answer) :: h) = made h ∧ (∀ name, standing name ((call, answer) :: h) = standing name h) ∧
      gives? h (call, answer) = none := by
  cases call with
  | set | get | setBatch => exact ⟨rfl, fun _ => rfl, rfl⟩
  | _ => cases handled

end OnlineHistory

end FeatureStore

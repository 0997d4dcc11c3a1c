import FeatureStore.Proofs.Offline.Answers
import FeatureStore.Proofs.Offline.Session

/-!
The kinds of resources for which an offline store hands something out. In memory every entry was made by a
call that checks the kind first, so that a getter finds none of another kind. On a PostgreSQL server it
is the catalog that tells which tables there are, and a getter keeps to a kind only if it checks it.
-/
namespace FeatureStore

structure KeepsKinds {m : Type → Type} (gives : ∀ {α : Type}, Task m α → Prop) (s : OfflineStore m)
    (id : ResourceId) : Prop where
  resource : gives (s.getResource id) → id.type = .feature ∨ id.type = .label
  primary : gives (s.getPrimary id) → id.type = .primary
  transformation : gives (s.getTransformation id) → id.type = .transformation
  trainingSet : gives (s.getTrainingSet id) → id.type = .trainingSet

namespace OfflineCall

def Typed : OfflineCall → Prop
  | createResource id _ | registerResource id _ => id.type = .feature ∨ id.type = .label
  | createPrimary id _ | registerPrimary id _ => id.type = .primary
  | createTrainingSet d | updateTrainingSet d => d.id.type = .trainingSet
  | _ => True

theorem givingOk {α : Type} {wrap : α → OfflineHandle (StateM Memory)} {answer : Except Failure α}
    {handle : Option (OfflineHandle (StateM Memory))} (gave : giving wrap answer = (true, handle)) :
    ∃ a, answer = .ok a := by
  cases answer with
  | error f => cases gave
  | ok a => exact ⟨a, rfl⟩

theorem plainOk {α : Type} {answer : Except Failure α}
    {handle : Option (OfflineHandle (StateM Memory))} (gave : plain answer = (true, handle)) :
    ∃ a, answer = .ok a := by
  cases answer with
  | error f => cases gave
  | ok a => exact ⟨a, rfl⟩

end OfflineCall

namespace Memory
open OfflineCall

def Gives (m : Memory) {α : Type} (t : Task (StateM Memory) α) : Prop := ∃ a, (t.on m).1 = .ok a

theorem givesChecked {α : Type} {m : Memory} {check : Except Error Unit}
    {t : Unit → Task (StateM Memory) α} (gives : Gives m (Task.ofExcept check >>= t)) :
    check = .ok () := by
  obtain ⟨a, ok⟩ := gives
  cases check with
  | error e => cases ok
  | ok _ => rfl

theorem trainingTyped {m : Memory} {d : TrainingSetDef} {rows : List TrainingSetRow}
    (made : m.trainingRows d = .ok rows) : d.id.type = .trainingSet := by
  obtain ⟨_, valid, -⟩ := Task.boundOk made
  obtain ⟨_, typed, -⟩ := Task.boundOk valid
  exact ResourceId.checkOneIff.mp typed

theorem createTrainingSetTyped {m : Memory} {d : TrainingSetDef} (gives : Gives m (createTrainingSet d)) :
    d.id.type = .trainingSet := by
  obtain ⟨_, ok⟩ := gives
  rw [createTrainingSetOn] at ok
  split at ok <;> try contradiction
  split at ok <;> try contradiction
  rename_i made
  exact trainingTyped made

theorem updateTrainingSetTyped {m : Memory} {d : TrainingSetDef} (gives : Gives m (updateTrainingSet d)) :
    d.id.type = .trainingSet := by
  obtain ⟨_, ok⟩ := gives
  rw [updateTrainingSetOn] at ok
  split at ok <;> try contradiction
  rename_i made
  exact trainingTyped made

theorem performedTyped {call : OfflineCall} {held : List (Option (OfflineHandle (StateM Memory)))}
    {m after : Memory} {handle : Option (OfflineHandle (StateM Memory))}
    (performed : (call.perform store held).run m = ((true, handle), after)) : call.Typed := by
  have answer := congrArg Prod.fst performed
  cases call with
  | createResource id schema => exact ResourceId.checkTwoIff.mp (givesChecked (givingOk answer))
  | registerResource id schema => exact ResourceId.checkTwoIff.mp (givesChecked (givingOk answer))
  | createPrimary id schema => exact ResourceId.checkOneIff.mp (givesChecked (givingOk answer))
  | registerPrimary id source => exact ResourceId.checkOneIff.mp (givesChecked (givingOk answer))
  | createTrainingSet d => exact createTrainingSetTyped (plainOk answer)
  | updateTrainingSet d => exact updateTrainingSetTyped (plainOk answer)
  | _ => trivial

structure Kinds (m : Memory) : Prop where
  resources : m.resources.KeyedBy fun id => id.type = .feature ∨ id.type = .label
  primaries : m.primaries.KeyedBy fun id => id.type = .primary
  trainingSets : m.trainingSets.KeyedBy fun id => id.type = .trainingSet

theorem kindsEmpty : Kinds .empty := ⟨.empty, .empty, .empty⟩

theorem resourceGiven {m : Memory} {id : ResourceId} (gives : Gives m (getResource id)) :
    ∃ source, m.resources.find? id = some source := by
  obtain ⟨_, ok⟩ := gives
  rw [getResourceOn] at ok
  split at ok <;> try contradiction
  rename_i found
  exact ⟨_, found⟩

theorem primaryGiven {m : Memory} {id : ResourceId} (gives : Gives m (getPrimary id)) :
    ∃ place, m.primaries.find? id = some place := by
  obtain ⟨_, ok⟩ := gives
  rw [getPrimaryOn] at ok
  split at ok <;> try contradiction
  rename_i found
  exact ⟨_, (primaryAtIff.mp found).1⟩

theorem trainingSetGiven {m : Memory} {id : ResourceId} (gives : Gives m (getTrainingSet id)) :
    ∃ rows, m.trainingSets.find? id = some rows := by
  obtain ⟨_, ok⟩ := gives
  rw [getTrainingSetOn] at ok
  split at ok <;> try contradiction
  rename_i found
  exact ⟨_, found⟩

theorem Kinds.keepsKinds {m : Memory} (kinds : m.Kinds) (id : ResourceId) :
    KeepsKinds (Gives m) store id where
  resource gives := by
    obtain ⟨source, found⟩ := resourceGiven gives
    exact kinds.resources id source found
  primary gives := by
    obtain ⟨place, found⟩ := primaryGiven gives
    exact kinds.primaries id place found
  transformation gives := by
    -- No transformation is ever made in memory.
    obtain ⟨_, ok⟩ := gives
    cases ok
  trainingSet gives := by
    obtain ⟨rows, found⟩ := trainingSetGiven gives
    exact kinds.trainingSets id rows found

end Memory

namespace OfflineSession
variable {x : OfflineSession}

theorem changeKinds (kinds : x.memory.Kinds) {call : OfflineCall}
    {handle : Option (OfflineHandle (StateM Memory))} {after : Memory} (typed : call.Typed)
    (change : x.Change call handle after) : after.Kinds := by
  cases change with
  | createResource => exact { kinds with resources := kinds.resources.insert typed _ }
  | registerResource => exact { kinds with resources := kinds.resources.insert typed _ }
  | @write handle r id records given owned entity =>
    rw [Memory.addRecordOwned owned]
    exact { kinds with resources := kinds.resources.insert (kinds.resources id _ owned) _ }
  | createPrimary => exact { kinds with primaries := kinds.primaries.insert typed _ }
  | registerPrimary => exact { kinds with primaries := kinds.primaries.insert typed _ }
  | createTrainingSet => exact { kinds with trainingSets := kinds.trainingSets.insert typed _ }
  | updateTrainingSet => exact { kinds with trainingSets := kinds.trainingSets.insert typed _ }
  | _ => exact { kinds with }

theorem stepKinds (tracked : x.Tracked) (kinds : x.memory.Kinds) (call : OfflineCall) :
    (x.step call).memory.Kinds := by
  rcases tracked.accounted call with performed | ⟨handle, after, performed, change⟩
  · rw [OfflineSession.step, performed]
    exact kinds
  · rw [OfflineSession.step, performed]
    exact changeKinds kinds (Memory.performedTyped performed) change

theorem stepsKinds (tracked : x.Tracked) (kinds : x.memory.Kinds) (calls : List OfflineCall) :
    (calls.foldl step x).memory.Kinds := by
  induction calls generalizing x with
  | nil => exact kinds
  | cons call rest ih => exact ih (tracked.step call) (stepKinds tracked kinds call)

theorem kindsRun (calls : List OfflineCall) : (run calls).memory.Kinds :=
  stepsKinds trackedStart Memory.kindsEmpty calls

end OfflineSession

/-! A server keeps no kinds: a getter knows no more than what the catalog tells about a table. -/

namespace Postgres

theorem resourceGives (id : ResourceId) (replies : List Reply) :
    Gives replies (getResource id) ↔ Listed replies := by
  refine givesListed (fun left a rest answers => ?_) fun kind left =>
    ⟨resourceTable id (tableName id) (kind == "VIEW"), ?_⟩
  · cases answers
  · rfl

theorem primaryGives (id : ResourceId) (replies : List Reply) :
    Gives replies (getPrimary id) ↔ Listed replies := requireGives

theorem transformationGives (id : ResourceId) (replies : List Reply) :
    Gives replies (getTransformation id) ↔ id.type = .transformation ∧ Listed replies := by
  rw [getTransformation, givesChecked, ResourceId.checkOneIff, requireGives]

theorem trainingSetGives (id : ResourceId) (replies : List Reply) :
    Gives replies (getTrainingSet id) ↔ id.type = .trainingSet ∧ Runs replies := by
  rw [getTrainingSet, givesChecked, ResourceId.checkOneIff]
  refine and_congr_right fun _ => ?_
  simp only [Gives, answersBind, answersConnect, answersQuery, answersPure]
  constructor
  · rintro ⟨a, rest, _, _, ⟨first, rfl, connected⟩, rows, left, ⟨reply, rfl, ran, -⟩, -⟩
    exact ⟨first, reply, left, rfl, connected, ran⟩
  · rintro ⟨first, reply, rest, rfl, connected, ran⟩
    exact ⟨_, rest, (), _, ⟨first, rfl, connected⟩, _, rest, ⟨reply, rfl, ran, rfl⟩, rfl, rfl⟩

theorem keepsKindsIff (id : ResourceId) (replies : List Reply) :
    KeepsKinds (Gives replies) store id ↔ ¬ Listed replies := by
  constructor
  · intro keeps listed
    have primary := keeps.primary ((primaryGives id replies).mpr listed)
    rcases keeps.resource ((resourceGives id replies).mpr listed) with same | same <;>
      simp [primary] at same
  · intro unlisted
    exact ⟨fun gives => absurd ((resourceGives id replies).mp gives) unlisted,
      fun gives => absurd ((primaryGives id replies).mp gives) unlisted,
      fun gives => ((transformationGives id replies).mp gives).1,
      fun gives => ((trainingSetGives id replies).mp gives).1⟩

end Postgres

open OfflineSession

/-- After any calls the store in memory hands out only what is of the kind of the resource. So do the two
getters of the PostgreSQL store that check the kind, whatever the server replies; the other two hand out
whatever the catalog lists, for a resource of any kind. -/
theorem handlesKeepKinds (calls : List OfflineCall) (replies : List Postgres.Reply) (id : ResourceId) :
    KeepsKinds (Memory.Gives (run calls).memory) Memory.store id ∧
    (Postgres.Gives replies (Postgres.store.getTransformation id) ↔
      id.type = .transformation ∧ Postgres.Listed replies) ∧
    (Postgres.Gives replies (Postgres.store.getTrainingSet id) ↔
      id.type = .trainingSet ∧ Postgres.Runs replies) ∧
    (Postgres.Gives replies (Postgres.store.getResource id) ↔ Postgres.Listed replies) ∧
    (Postgres.Gives replies (Postgres.store.getPrimary id) ↔ Postgres.Listed replies) ∧
    (KeepsKinds (Postgres.Gives replies) Postgres.store id ↔ ¬ Postgres.Listed replies) :=
  ⟨(kindsRun calls).keepsKinds id, Postgres.transformationGives id replies,
    Postgres.trainingSetGives id replies, Postgres.resourceGives id replies,
    Postgres.primaryGives id replies, Postgres.keepsKindsIff id replies⟩

def clicked : ResourceId := ⟨"clicked", "v1", .label⟩

def fraud : TrainingSetDef := ⟨⟨"fraud", "v1", .trainingSet⟩, clicked, [clicks]⟩

def fraudCalls : List OfflineCall :=
  [.createResource clicks ⟨[⟨"entity", .string⟩, ⟨"value", .int⟩]⟩,
    .createResource clicked ⟨[⟨"entity", .string⟩, ⟨"value", .bool⟩]⟩, .createTrainingSet fraud]

def listing : List Postgres.Reply := [.done, .rows [[.text (some "BASE TABLE")]]]

theorem handlesKeepKindsFraud :
    let m := (run fraudCalls).memory
    (Memory.Gives m (Memory.getResource clicks) ∧ ¬ Memory.Gives m (Memory.getPrimary clicks)) ∧
    (Memory.Gives m (Memory.getTrainingSet fraud.id) ∧ ¬ Memory.Gives m (Memory.getResource fraud.id)) ∧
    Postgres.Gives listing (Postgres.getTransformation ⟨"daily", "v1", .transformation⟩) ∧
    ¬ Postgres.Gives listing (Postgres.getTransformation clicks) := by
  obtain ⟨feature, other, -⟩ := handlesKeepKinds fraudCalls listing clicks
  obtain ⟨trained, -⟩ := handlesKeepKinds fraudCalls listing fraud.id
  obtain ⟨-, own, -⟩ := handlesKeepKinds fraudCalls listing ⟨"daily", "v1", .transformation⟩
  have listed : Postgres.Listed listing := ⟨_, _, [], _, rfl, rfl, rfl, rfl⟩
  refine ⟨⟨⟨_, rfl⟩, fun gives => ?_⟩, ⟨⟨_, rfl⟩, fun gives => ?_⟩, own.mpr ⟨rfl, listed⟩, fun gives => ?_⟩
  · cases feature.primary gives
  · rcases trained.resource gives with same | same <;> cases same
  · cases (other.mp gives).1

theorem trainingSetAsTable :
    (Postgres.Gives listing (Postgres.store.getResource fraud.id) ∧
      Postgres.Gives listing (Postgres.store.getPrimary fraud.id)) ∧
    ¬ KeepsKinds (Postgres.Gives listing) Postgres.store fraud.id ∧
    ∀ replies schema, ¬ Postgres.Gives replies (Postgres.store.createResource fraud.id schema) ∧
      ¬ Postgres.Gives replies (Postgres.store.createPrimary fraud.id schema) := by
  have listed : Postgres.Listed listing := ⟨_, _, [], _, rfl, rfl, rfl, rfl⟩
  refine ⟨⟨(Postgres.resourceGives fraud.id listing).mpr listed,
    (Postgres.primaryGives fraud.id listing).mpr listed⟩,
    fun keeps => (Postgres.keepsKindsIff fraud.id listing).mp keeps listed, fun replies schema => ⟨?_, ?_⟩⟩
  · intro gives
    rcases ResourceId.checkTwoIff.mp (Postgres.givesChecked.mp gives).1 with same | same <;> cases same
  · intro gives
    cases ResourceId.checkOneIff.mp (Postgres.givesChecked.mp gives).1

end FeatureStore

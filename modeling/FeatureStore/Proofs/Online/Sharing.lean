import FeatureStore.Proofs.Online.Client
import FeatureStore.Proofs.Online.Redis
import Mathlib.Logic.Function.Basic

/-!
Clients that share a Redis server. Each has one call at a time under way and sends the commands of a
request one after another; the server takes one command of any client in each step, so that the commands
of all clients come in any order. What carries the results is `Stage`: what a client still sends, and how
its call goes on from the replies. Each step of a client at a stage is one of a few (`Stepped`).
-/
namespace FeatureStore.Redis
open OnlineCall

abbrev Returned := OnlineAnswer × Option (OnlineTable Talk)

/-- A call under way: the commands that the server has not seen, the replies of the same request that
are there, and how the call goes on from all of them. -/
structure Pending where
  call : OnlineCall
  first : Command
  rest : List Command
  replies : List Reply
  next : List Reply → Talk Returned

structure Report where
  client : Nat
  call : OnlineCall
  answer : OnlineAnswer
  handle : Option (OnlineTable Talk)

structure Shared where
  keyspace : Keyspace
  queued : Nat → Option (List Command)
  pending : Nat → Option Pending
  -- The calls that have returned; handles are named by their place here.
  reports : List Report

inductive Move where
  | call (client : Nat) (oc : OnlineCall)
  | deliver (client : Nat)

def Move.client : Move → Nat
  | .call who _ => who
  | .deliver who => who

def Move.table? : Move → Option String
  | .call _ oc => oc.table?
  | .deliver _ => none

def Ordinary (ms : List Move) : Prop := ∀ m ∈ ms, m.table? ≠ some "__tables__"

instance (ms : List Move) : Decidable (Ordinary ms) := inferInstanceAs (Decidable (∀ m ∈ ms, _))

theorem ordinaryCons {m : Move} {ms : List Move} :
    Ordinary (m :: ms) ↔ m.table? ≠ some "__tables__" ∧ Ordinary ms := List.forall_mem_cons

theorem ordinaryAppend {first rest : List Move} :
    Ordinary (first ++ rest) ↔ Ordinary first ∧ Ordinary rest := List.forall_mem_append

theorem deliverOrdinary (who : Nat) : Ordinary [.deliver who] := by
  simp [Ordinary, Move.table?]

theorem readOrdinary (who handle : Nat) (entity : String) :
    Ordinary [.call who (.get handle entity)] := by
  simp [Ordinary, Move.table?, OnlineCall.table?]

def leads (reports : List Report) (handle : Nat) : Option String :=
  reports[handle]?.bind fun r => if r.handle.isSome then r.call.opens? else none

namespace Shared

def start (k : Keyspace) : Shared := ⟨k, fun _ => none, fun _ => none, []⟩

def put (s : Shared) (who : Nat) (p : Option Pending) : Shared :=
  { s with pending := Function.update s.pending who p }

def receive (s : Shared) (who : Nat) (d : Command) : Reply × Shared :=
  let (reply, server) := (⟨s.keyspace, s.queued who, [], []⟩ : Server).receive d
  (reply, { s with
    keyspace := server.keyspace
    queued := Function.update s.queued who server.queued })

def proceed (s : Shared) (who : Nat) (oc : OnlineCall) : Talk Returned → Shared
  | .done (answer, handle) =>
    { s.put who none with reports := s.reports ++ [⟨who, oc, answer, handle⟩] }
  | .ask [] next => s.proceed who oc (next [])
  | .ask (first :: rest) next => s.put who (some ⟨oc, first, rest, [], next⟩)

variable (c : RedisConfig) (sizes : Nat → WordSize)

def step (s : Shared) : Move → Shared
  | .call who oc =>
    match s.pending who with
    | some _ => s
    | none => s.proceed who oc
        (perform (store { c with batchSize := sizes who }) (s.reports.map (·.handle)) oc)
  | .deliver who =>
    match s.pending who with
    | none => s
    | some p =>
      let (reply, s) := s.receive who p.first
      match p.rest with
      | [] => s.proceed who p.call (p.next (p.replies ++ [reply]))
      | first :: rest => s.put who (some ⟨p.call, first, rest, p.replies ++ [reply], p.next⟩)

/- The commands that take effect in a step: none inside a transaction, all of it at its end. -/
def executes (s : Shared) : Move → List Command
  | .call _ _ => []
  | .deliver who =>
    match s.pending who, s.queued who with
    | none, _ => []
    | some p, none => if p.first = .multi then [] else [p.first]
    | some p, some queued => if p.first = .exec then queued else []

def moves (s : Shared) (ms : List Move) : Shared := ms.foldl (step c sizes) s

def trail (s : Shared) : List Move → List Command
  | [] => []
  | m :: rest => s.executes m ++ (step c sizes s m).trail rest

end Shared

inductive Removal (c : RedisConfig) (name : String) :
    Option (List Command) → Command → List Command → Prop where
  | opens : Removal c name none .multi [.hdel c.catalogKey name, .del (c.scope ++ name), .exec]
  | unlists : Removal c name (some []) (.hdel c.catalogKey name) [.del (c.scope ++ name), .exec]
  | clears : Removal c name (some [.hdel c.catalogKey name]) (.del (c.scope ++ name)) [.exec]
  | ends : Removal c name (some [.hdel c.catalogKey name, .del (c.scope ++ name)]) .exec []

inductive Writes (key : String) : Talk Returned → Prop where
  | done (answer : OnlineAnswer) : Writes key (.done (answer, none))
  | ask {commands : List Command} {next : List Reply → Talk Returned}
      (puts : ∀ d ∈ commands, ∃ entity text, d = .hset key entity text)
      (later : ∀ replies, Writes key (next replies)) : Writes key (.ask commands next)

inductive Stage (c : RedisConfig) (reports : List Report) : Option (List Command) → Pending → Prop where
  | claiming {feature variant text : String} {type : ValueType} {size : WordSize}
      {next : List Reply → Talk Returned}
      (unreserved : onlineTableKey "" feature variant ≠ "__tables__")
      (taken : ∃ f, next [.item (Keyspace.number false)] = .done (.failed f, none))
      (claimed : ∃ clear, next [.item (Keyspace.number true)] =
          .ask [.del (c.scope ++ onlineTableKey "" feature variant)] clear ∧
        ∀ b, clear [.item (Keyspace.number b)] =
          .done (.done, some (table { c with batchSize := size } feature variant))) :
      Stage c reports none ⟨.createTable feature variant type,
        .hsetnx c.catalogKey (onlineTableKey "" feature variant) text, [], [], next⟩
  | clearing {feature variant : String} {type : ValueType} {size : WordSize}
      {next : List Reply → Talk Returned}
      (unreserved : onlineTableKey "" feature variant ≠ "__tables__")
      (cleared : ∀ b, next [.item (Keyspace.number b)] =
        .done (.done, some (table { c with batchSize := size } feature variant))) :
      Stage c reports none ⟨.createTable feature variant type,
        .del (c.scope ++ onlineTableKey "" feature variant), [], [], next⟩
  | looking {feature variant : String} {size : WordSize} {next : List Reply → Talk Returned}
      (unreserved : onlineTableKey "" feature variant ≠ "__tables__")
      (missing : ∃ f, next [.item (Keyspace.number false)] = .done (.failed f, none))
      (found : next [.item (Keyspace.number true)] =
        .done (.done, some (table { c with batchSize := size } feature variant))) :
      Stage c reports none ⟨.getTable feature variant,
        .hexists c.catalogKey (onlineTableKey "" feature variant), [], [], next⟩
  | removing {feature variant : String} {queued : Option (List Command)} {first : Command}
      {rest : List Command} {replies : List Reply} {next : List Reply → Talk Returned}
      (unreserved : onlineTableKey "" feature variant ≠ "__tables__")
      (part : Removal c (onlineTableKey "" feature variant) queued first rest)
      (ends : ∀ replies, ∃ answer, next replies = .done (answer, none)) :
      Stage c reports queued ⟨.deleteTable feature variant, first, rest, replies, next⟩
  | setting {handle : Nat} {name entity : String} {value : FeatureValue}
      {next : List Reply → Talk Returned}
      (unreserved : name ≠ "__tables__") (leading : leads reports handle = some name)
      (set : ∀ b, next [.item (Keyspace.number b)] = .done (.done, none)) :
      Stage c reports none ⟨.set handle entity value,
        .hset (c.scope ++ name) entity (encodeValue value), [], [], next⟩
  | reading {handle : Nat} {name entity : String} {next : List Reply → Talk Returned}
      (leading : leads reports handle = some name)
      (read : ∀ k : Keyspace, next [.item (k.run (.hget (c.scope ++ name) entity)).1] =
        .done (valued (fieldValue entity ((k.hash (c.scope ++ name)).find? entity)))) :
      Stage c reports none ⟨.get handle entity, .hget (c.scope ++ name) entity, [], [], next⟩
  | writing {handle : Nat} {records : List (String × FeatureValue)} {name : String} {first : Command}
      {rest : List Command} {replies : List Reply} {next : List Reply → Talk Returned}
      (unreserved : name ≠ "__tables__")
      (puts : ∀ d ∈ first :: rest, ∃ entity text, d = .hset (c.scope ++ name) entity text)
      (later : ∀ replies, Writes (c.scope ++ name) (next replies)) :
      Stage c reports none ⟨.setBatch handle records, first, rest, replies, next⟩

theorem leadsLater {reports : List Report} {handle : Nat} {name : String}
    (leading : leads reports handle = some name) (more : List Report) :
    leads (reports ++ more) handle = some name := by
  cases there : reports[handle]? with
  | none => simp [leads, there] at leading
  | some r =>
    rw [leads, List.getElem?_append_left (List.getElem?_eq_some_iff.mp there).1]
    exact leading

theorem Stage.later {c : RedisConfig} {reports : List Report} {queued : Option (List Command)}
    {p : Pending} (stage : Stage c reports queued p) (more : List Report) :
    Stage c (reports ++ more) queued p := by
  cases stage with
  | claiming unreserved taken claimed => exact .claiming unreserved taken claimed
  | clearing unreserved cleared => exact .clearing unreserved cleared
  | looking unreserved missing found => exact .looking unreserved missing found
  | removing unreserved part ends => exact .removing unreserved part ends
  | setting unreserved leading set => exact .setting unreserved (leadsLater leading more) set
  | reading leading read => exact .reading (leadsLater leading more) read
  | writing unreserved puts later => exact .writing unreserved puts later

def Gives (c : RedisConfig) (oc : OnlineCall) (t : OnlineTable Talk) : Prop :=
  ∃ feature variant size, oc.opens? = some (onlineTableKey "" feature variant) ∧
    onlineTableKey "" feature variant ≠ "__tables__" ∧
    t = table { c with batchSize := size } feature variant

def Told (c : RedisConfig) (reports : List Report) (k : Keyspace) (oc : OnlineCall)
    (answer : OnlineAnswer) : Prop :=
  match oc with
  | .getTable feature variant => answer = .done →
    (k.hash c.catalogKey).contains (onlineTableKey "" feature variant) = true
  | .set handle entity value => answer = .done → ∃ name, leads reports handle = some name ∧
    (k.hash (c.scope ++ name)).find? entity = some (encodeValue value)
  | .get handle entity => ∀ name, leads reports handle = some name →
    answer = shown (fieldValue entity ((k.hash (c.scope ++ name)).find? entity))
  | _ => True

def Pending.Clears (c : RedisConfig) (p : Pending) (name : String) : Prop :=
  p.call.opens? = some name ∧ p.first = .del (c.scope ++ name)

inductive Left (c : RedisConfig) (reports : List Report) (before after : Keyspace) (oc : OnlineCall) :
    Talk Returned → Prop where
  | done {answer : OnlineAnswer} {handle : Option (OnlineTable Talk)}
      (gives : ∀ t, handle = some t → Gives c oc t) (told : Told c reports after oc answer) :
      Left c reports before after oc (.done (answer, handle))
  | skip {next : List Reply → Talk Returned} (left : Left c reports before after oc (next [])) :
      Left c reports before after oc (.ask [] next)
  | ask {first : Command} {rest : List Command} {next : List Reply → Talk Returned}
      (stage : Stage c reports none ⟨oc, first, rest, [], next⟩)
      (claims : ∀ name, Pending.Clears c ⟨oc, first, rest, [], next⟩ name →
        (before.hash c.catalogKey).contains name = false) :
      Left c reports before after oc (.ask (first :: rest) next)

section
variable {c : RedisConfig} {reports : List Report} {before after : Keyspace} {oc : OnlineCall}

theorem Left.on {first : Command} {rest : List Command} {next : List Reply → Talk Returned}
    (stage : Stage c reports none ⟨oc, first, rest, [], next⟩)
    (other : ∀ name, first ≠ .del (c.scope ++ name)) :
    Left c reports before after oc (.ask (first :: rest) next) :=
  .ask stage fun name clears => absurd clears.2 (other name)

theorem Left.plain {answer : OnlineAnswer} (told : Told c reports after oc answer) :
    Left c reports before after oc (.done (answer, none)) :=
  .done (fun t gave => by cases gave) told

theorem Writes.left {name : String} {d : Talk Returned} (writes : Writes (c.scope ++ name) d)
    (unreserved : name ≠ "__tables__") (handle : Nat) (records : List (String × FeatureValue)) :
    Left c reports before after (.setBatch handle records) d := by
  induction writes with
  | done answer => exact .plain trivial
  | @ask commands next puts later ih =>
    cases commands with
    | nil => exact .skip (ih [])
    | cons first rest =>
      refine .on (.writing unreserved puts later) fun name same => ?_
      obtain ⟨entity, text, put⟩ := puts first List.mem_cons_self
      rw [put] at same
      cases same

theorem sendAllThen {α : Type} (context : String) (commands : List Command)
    (f : List Reply → Task Talk α) (g : Except Failure α → Returned) :
    (do return g (← (sendAll context commands >>= f).run) : Talk Returned) =
      .ask commands fun replies =>
        match replies.findSome? Reply.error? with
        | some e => .done (g (.error (.error (refused context e))))
        | none => do return g (← (f replies).run) := by
  rw [sendAllAsks]
  refine congrArg (Dialog.ask commands) (funext fun replies => ?_)
  beta_reduce
  cases replies.findSome? Reply.error? <;> rfl

theorem sendPiecesWrites (key : String) (ps : List (List (String × FeatureValue))) :
    Writes key (do return closed (← (sendPieces key ps).run)) := by
  induction ps with
  | nil => exact .done _
  | cons piece ps ih =>
    rw [sendPieces, sendAllThen]
    refine .ask (fun d mem => ?_) fun replies => ?_
    · obtain ⟨r, -, rfl⟩ := List.mem_map.mp mem
      exact ⟨_, _, rfl⟩
    · split
      · exact .done _
      · exact ih

theorem readDecoded (x : Except Error FeatureValue) :
    (do return valued (← (Task.ofExcept x : Task Talk FeatureValue).run) : Talk Returned) =
      .done (valued (x.mapError .error)) := by
  cases x <;> rfl

theorem held (gives : ∀ r ∈ reports, ∀ t, r.handle = some t → Gives c r.call t) (handle : Nat) :
    ((reports.map (·.handle))[handle]?.join = none ∧ leads reports handle = none) ∨
      ∃ feature variant size, (reports.map (·.handle))[handle]?.join =
          some (table { c with batchSize := size } feature variant) ∧
        leads reports handle = some (onlineTableKey "" feature variant) ∧
        onlineTableKey "" feature variant ≠ "__tables__" := by
  simp only [List.getElem?_map, leads]
  cases there : reports[handle]? with
  | none => exact .inl ⟨rfl, rfl⟩
  | some r =>
    cases given : r.handle with
    | none => exact .inl ⟨by simp [given], by simp [given]⟩
    | some t =>
      obtain ⟨feature, variant, size, opens, unreserved, rfl⟩ :=
        gives r (List.mem_of_getElem? there) t given
      exact .inr ⟨feature, variant, size, by simp [given], by simp [given, opens], unreserved⟩

theorem begun (gives : ∀ r ∈ reports, ∀ t, r.handle = some t → Gives c r.call t) (k : Keyspace)
    (size : WordSize) (oc : OnlineCall) (ordinary : oc.table? ≠ some "__tables__") :
    Left c reports k k oc
      (perform (store { c with batchSize := size }) (reports.map (·.handle)) oc) := by
  cases oc with
  | createTable feature variant type =>
    simp only [perform, store, createTable, scopedKey]
    exact .on (.claiming (fun same => ordinary (congrArg some same)) ⟨_, rfl⟩
      ⟨_, rfl, fun b => by cases b <;> rfl⟩) fun name same => by cases same
  | getTable feature variant =>
    exact .on (.looking (fun same => ordinary (congrArg some same)) ⟨_, rfl⟩ rfl)
      fun name same => by cases same
  | deleteTable feature variant =>
    simp only [perform, store, deleteTable, scopedKey]
    rw [sendAllThen]
    refine .on (.removing (fun same => ordinary (congrArg some same)) .opens fun replies => ?_)
      fun name same => by cases same
    split
    · exact ⟨_, rfl⟩
    · split
      · exact ⟨_, rfl⟩
      · split <;> exact ⟨_, rfl⟩
  | set handle entity value =>
    rcases held gives handle with
      ⟨none, lost⟩ | ⟨feature, variant, size, given, leading, unreserved⟩
    · rw [perform, through, none]
      exact .plain fun answered => by cases answered
    · rw [perform, through, given]
      simp only [table, scopedKey, setValue]
      exact .on (.setting unreserved leading fun b => by cases b <;> rfl)
        fun name same => by cases same
  | get handle entity =>
    rcases held gives handle with
      ⟨none, lost⟩ | ⟨feature, variant, size, given, leading, unreserved⟩
    · rw [perform, through, none]
      exact .plain fun name leading => by rw [lost] at leading; cases leading
    · rw [perform, through, given]
      simp only [table, scopedKey, getValue]
      refine .on (.reading leading fun k => ?_) fun name same => by cases same
      simp only [Keyspace.run]
      cases (k.hash (c.scope ++ onlineTableKey "" feature variant)).find? entity with
      | none => rfl
      | some raw => exact readDecoded (decodeValue raw)
  | setBatch handle records =>
    rcases held gives handle with
      ⟨none, lost⟩ | ⟨feature, variant, size, given, leading, unreserved⟩
    · rw [perform, through, none]
      exact .plain trivial
    · rw [perform, through, given]
      simp only [table, scopedKey]
      exact (sendPiecesWrites _ _).left unreserved handle records

end

namespace Shared
variable {c : RedisConfig} {sizes : Nat → WordSize} {s : Shared} {who : Nat}

def Placed (c : RedisConfig) (reports : List Report) (queued : Option (List Command)) :
    Option Pending → Prop
  | none => queued = none
  | some p => Stage c reports queued p

structure Sound (c : RedisConfig) (s : Shared) : Prop where
  placed (who : Nat) : Placed c s.reports (s.queued who) (s.pending who)
  gives : ∀ r ∈ s.reports, ∀ t, r.handle = some t → Gives c r.call t

def Clearing (c : RedisConfig) (s : Shared) (name : String) : Prop :=
  ∃ who p, s.pending who = some p ∧ p.Clears c name

inductive Ran (c : RedisConfig) (s : Shared) : List Command → Prop where
  | nothing : Ran c s []
  | claimed (name text : String) : Ran c s [.hsetnx c.catalogKey name text]
  | looked (name : String) : Ran c s [.hexists c.catalogKey name]
  | wrote {name : String} (entity text : String) (unreserved : name ≠ "__tables__") :
      Ran c s [.hset (c.scope ++ name) entity text]
  | read (key entity : String) : Ran c s [.hget key entity]
  | cleared {name : String} (unreserved : name ≠ "__tables__") (clearing : Clearing c s name) :
      Ran c s [.del (c.scope ++ name)]
  | deleted {name : String} (unreserved : name ≠ "__tables__") :
      Ran c s [.hdel c.catalogKey name, .del (c.scope ++ name)]

structure Stepped (c : RedisConfig) (s : Shared) (who : Nat) (commands : List Command)
    (after : Shared) : Prop where
  ran : Ran c s commands
  keyspace : after.keyspace = (s.keyspace.runAll commands).2
  sound : Sound c after
  elsewhere : ∀ other, other ≠ who → after.pending other = s.pending other
  claims : ∀ p name, after.pending who = some p → p.Clears c name →
    s.pending who = some p ∨ (s.keyspace.hash c.catalogKey).contains name = false
  reported : after.reports = s.reports ∨ ∃ oc answer handle,
    after.reports = s.reports ++ [⟨who, oc, answer, handle⟩] ∧ after.pending who = none ∧
      Told c s.reports after.keyspace oc answer

def ran (s : Shared) (who : Nat) (commands : List Command) (queued : Option (List Command)) : Shared :=
  { s with
    keyspace := (s.keyspace.runAll commands).2
    queued := Function.update s.queued who queued }

theorem waits (sound : Sound c s) {commands : List Command} (ran : Ran c s commands)
    {queued : Option (List Command)} {p : Pending} (stage : Stage c s.reports queued p)
    (claims : ∀ name, p.Clears c name → (s.keyspace.hash c.catalogKey).contains name = false) :
    Stepped c s who commands ((s.ran who commands queued).put who (some p)) where
  ran := ran
  keyspace := rfl
  sound := by
    refine ⟨fun other => ?_, sound.gives⟩
    by_cases here : other = who
    · subst here
      simpa [Shared.put, Shared.ran, Placed] using stage
    · simpa [Shared.put, Shared.ran, here] using sound.placed other
  elsewhere other apart := by simp [Shared.put, Shared.ran, apart]
  claims q name there clears := by
    simp only [Shared.put, Function.update_self, Option.some.injEq] at there
    exact .inr (claims name (there ▸ clears))
  reported := .inl rfl

theorem proceeds (sound : Sound c s) {commands : List Command} (ran : Ran c s commands)
    {oc : OnlineCall} {d : Talk Returned}
    (left : Left c s.reports s.keyspace (s.keyspace.runAll commands).2 oc d) :
    Stepped c s who commands ((s.ran who commands none).proceed who oc d) := by
  induction left with
  | @done answer handle gives told =>
    refine ⟨ran, rfl, ⟨fun other => ?_, fun r mem t given => ?_⟩, fun other apart => ?_,
      fun p name there => ?_, .inr ⟨oc, answer, handle, rfl, ?_, told⟩⟩
    · by_cases here : other = who
      · subst here
        simp [proceed, Shared.put, Shared.ran, Placed]
      -- the stage of another client speaks of the reports, which only grow
      · have before := sound.placed other
        cases there : s.pending other with
        | none => simpa [proceed, Shared.put, Shared.ran, here, Placed, there] using before
        | some p =>
          simp only [there, Placed] at before
          simpa [proceed, Shared.put, Shared.ran, here, Placed, there] using before.later _
    · rcases List.mem_append.mp mem with old | new
      · exact sound.gives r old t given
      · rw [List.mem_singleton.mp new] at given ⊢
        exact gives t given
    · simp [proceed, Shared.put, Shared.ran, apart]
    · simp [proceed, Shared.put] at there
    · simp [proceed, Shared.put]
  | skip left ih => exact ih
  | ask stage claims => exact waits sound ran stage claims

theorem still (sound : Sound c s) : Stepped c s who [] s :=
  ⟨.nothing, rfl, sound, fun _ _ => rfl, fun _ _ there _ => .inl there, .inl rfl⟩

theorem ranNothing (quiet : s.queued who = none) : s.ran who [] none = s := by
  rw [ran, ← quiet, Function.update_eq_self]
  rfl

section
variable {oc : OnlineCall} {d first : Command} {rest queued : List Command} {replies : List Reply}
  {next : List Reply → Talk Returned}

theorem receiveAlone (quiet : s.queued who = none) (plain : Plain d) :
    s.receive who d = (.item (s.keyspace.run d).1, s.ran who [d] none) := by
  have received := receivePlain plain s.keyspace []
  simp only [idle] at received
  simp only [receive, quiet, received]
  rfl

theorem deliverAlone (sound : Sound c s) (there : s.pending who = some ⟨oc, d, [], [], next⟩)
    (quiet : s.queued who = none) (plain : Plain d) (ran : Ran c s [d])
    (left : Left c s.reports s.keyspace (s.keyspace.run d).2 oc (next [.item (s.keyspace.run d).1])) :
    Stepped c s who (s.executes (.deliver who)) (step c sizes s (.deliver who)) := by
  have executed : s.executes (.deliver who) = [d] := by simp [executes, there, quiet, plain.1]
  have stepped : step c sizes s (.deliver who) =
      (s.ran who [d] none).proceed who oc (next [.item (s.keyspace.run d).1]) := by
    simp only [step, there, receiveAlone quiet plain]
    rfl
  rw [executed, stepped]
  exact proceeds sound ran left

theorem deliverWrite (sound : Sound c s) {handle : Nat} {records : List (String × FeatureValue)}
    {name : String} (there : s.pending who = some ⟨.setBatch handle records, d, rest, replies, next⟩)
    (quiet : s.queued who = none) (unreserved : name ≠ "__tables__")
    (puts : ∀ e ∈ d :: rest, ∃ entity text, e = .hset (c.scope ++ name) entity text)
    (later : ∀ replies, Writes (c.scope ++ name) (next replies)) :
    Stepped c s who (s.executes (.deliver who)) (step c sizes s (.deliver who)) := by
  obtain ⟨entity, text, rfl⟩ := puts d List.mem_cons_self
  have plain : Plain (.hset (c.scope ++ name) entity text) := by simp [Plain]
  have executed : s.executes (.deliver who) = [.hset (c.scope ++ name) entity text] := by
    simp [executes, there, quiet]
  rw [executed]
  cases rest with
  | nil =>
    simp only [step, there, receiveAlone quiet plain]
    exact proceeds sound (.wrote entity text unreserved)
      ((later _).left unreserved handle records)
  | cons first rest =>
    simp only [step, there, receiveAlone quiet plain]
    refine waits sound (.wrote entity text unreserved)
      (.writing unreserved (fun e mem => puts e (List.mem_cons_of_mem _ mem)) later)
      fun _ clears => ?_
    cases clears.1

theorem deliverRemoval (sound : Sound c s) {feature variant : String} {q : Option (List Command)}
    (there : s.pending who = some ⟨.deleteTable feature variant, d, rest, replies, next⟩)
    (waiting : s.queued who = q) (unreserved : onlineTableKey "" feature variant ≠ "__tables__")
    (part : Removal c (onlineTableKey "" feature variant) q d rest)
    (ends : ∀ replies, ∃ answer, next replies = .done (answer, none)) :
    Stepped c s who (s.executes (.deliver who)) (step c sizes s (.deliver who)) := by
  cases part with
  | opens =>
    simp only [executes, step, there, receive, waiting]
    exact waits sound .nothing (.removing unreserved .unlists ends) fun _ clears => by cases clears.1
  | unlists =>
    simp only [executes, step, there, receive, waiting]
    exact waits sound .nothing (.removing unreserved .clears ends) fun _ clears => by cases clears.1
  | clears =>
    simp only [executes, step, there, receive, waiting]
    exact waits sound .nothing (.removing unreserved .ends ends) fun _ clears => by cases clears.1
  | ends =>
    simp only [executes, step, there, receive, waiting]
    obtain ⟨answer, done⟩ := ends
      (replies ++ [((⟨s.keyspace, some _, [], []⟩ : Server).receive .exec).1])
    exact proceeds sound (.deleted unreserved) (done ▸ .plain trivial)

theorem runClaim (k : Keyspace) (key field value : String) :
    ((k.hash key).contains field = false ∧
        (k.run (.hsetnx key field value)).1 = Keyspace.number true) ∨
      (k.run (.hsetnx key field value)).1 = Keyspace.number false := by
  simp only [Keyspace.run]
  cases (k.hash key).contains field with
  | true => exact .inr rfl
  | false => exact .inl ⟨rfl, rfl⟩

theorem delivered (sound : Sound c s) (who : Nat) :
    Stepped c s who (s.executes (.deliver who)) (step c sizes s (.deliver who)) := by
  cases there : s.pending who with
  | none =>
    simp only [executes, step, there]
    exact still sound
  | some p =>
    have stage := sound.placed who
    rw [there] at stage
    simp only [Placed] at stage
    generalize quiet : s.queued who = queued at stage
    cases stage with
    | @claiming feature variant text type size next unreserved taken claimed =>
      obtain ⟨f, taken⟩ := taken
      obtain ⟨clear, claimed, cleared⟩ := claimed
      refine deliverAlone sound there quiet (by simp [Plain]) (.claimed _ _) ?_
      rcases runClaim s.keyspace c.catalogKey (onlineTableKey "" feature variant) text with
        ⟨free, answered⟩ | answered
      -- the only way to a client that clears: its name was free when it claimed it
      · rw [answered, claimed]
        refine .ask (.clearing unreserved cleared) fun name clears => ?_
        cases clears.1
        exact free
      · rw [answered, taken]
        exact .plain trivial
    | @clearing feature variant type size next unreserved cleared =>
      refine deliverAlone sound there quiet (by simp [Plain])
        (.cleared unreserved ⟨who, _, there, rfl, rfl⟩) ?_
      have answered := cleared (s.keyspace.contains (c.scope ++ onlineTableKey "" feature variant))
      exact answered ▸ .done (fun t given => by
        cases given
        exact ⟨feature, variant, size, rfl, unreserved, rfl⟩) trivial
    | @looking feature variant size next unreserved missing found =>
      obtain ⟨f, missing⟩ := missing
      refine deliverAlone sound there quiet (by simp [Plain]) (.looked _) ?_
      simp only [Keyspace.run]
      cases known : (s.keyspace.hash c.catalogKey).contains (onlineTableKey "" feature variant) with
      | true =>
        rw [found]
        refine .done (fun t given => ?_) fun _ => known
        cases given
        exact ⟨feature, variant, size, rfl, unreserved, rfl⟩
      | false =>
        rw [missing]
        exact .plain fun made => by cases made
    | removing unreserved part ends => exact deliverRemoval sound there quiet unreserved part ends
    | @setting handle name entity value next unreserved leading set =>
      refine deliverAlone sound there quiet (by simp [Plain]) (.wrote _ _ unreserved) ?_
      simp only [Keyspace.run]
      rw [set]
      refine .plain fun _ => ⟨name, leading, ?_⟩
      simp [Keyspace.hashPut, Bindings.findInsert]
    | @reading handle name entity next leading read =>
      refine deliverAlone sound there quiet (by simp [Plain]) (.read _ _) ?_
      rw [read, valuedShown]
      refine .plain fun other same => ?_
      rw [leading] at same
      cases same
      rfl
    | writing unreserved puts later => exact deliverWrite sound there quiet unreserved puts later

end

theorem stepped (sizes : Nat → WordSize) (sound : Sound c s) (m : Move)
    (ordinary : m.table? ≠ some "__tables__") :
    Stepped c s m.client (s.executes m) (step c sizes s m) := by
  cases m with
  | deliver who => exact delivered sound who
  | call who oc =>
    simp only [step]
    cases there : s.pending who with
    | some p => exact still sound
    | none =>
      have quiet := sound.placed who
      rw [there] at quiet
      have begins := begun sound.gives s.keyspace (sizes who) oc ordinary
      have goes : Stepped c s who [] _ := proceeds sound .nothing begins
      rwa [ranNothing quiet] at goes

theorem startSound (c : RedisConfig) (k : Keyspace) : Sound c (start k) :=
  ⟨fun _ => rfl, fun r mem => by cases mem⟩

theorem movesAppend (s : Shared) (first rest : List Move) :
    s.moves c sizes (first ++ rest) = (s.moves c sizes first).moves c sizes rest := List.foldl_append

theorem trailAppend (s : Shared) (first rest : List Move) : s.trail c sizes (first ++ rest) =
    s.trail c sizes first ++ (s.moves c sizes first).trail c sizes rest := by
  induction first generalizing s with
  | nil => rfl
  | cons m first ih =>
    rw [List.cons_append, trail, trail, ih, List.append_assoc]
    rfl

theorem movesSound (sizes : Nat → WordSize) (sound : Sound c s) {ms : List Move}
    (ordinary : Ordinary ms) :
    Sound c (s.moves c sizes ms) := by
  induction ms generalizing s with
  | nil => exact sound
  | cons m rest ih =>
    obtain ⟨here, later⟩ := ordinaryCons.mp ordinary
    exact ih (stepped sizes sound m here).sound later

theorem trailRuns (sizes : Nat → WordSize) (sound : Sound c s) {ms : List Move}
    (ordinary : Ordinary ms) :
    (s.moves c sizes ms).keyspace = (s.keyspace.runAll (s.trail c sizes ms)).2 := by
  induction ms generalizing s with
  | nil => rfl
  | cons m rest ih =>
    obtain ⟨here, later⟩ := ordinaryCons.mp ordinary
    have first := stepped sizes sound m here
    rw [trail, Keyspace.runAllAppend, ← first.keyspace]
    exact ih first.sound later

theorem reportsGrow (sizes : Nat → WordSize) (sound : Sound c s) {ms : List Move}
    (ordinary : Ordinary ms) :
    ∃ more, (s.moves c sizes ms).reports = s.reports ++ more := by
  induction ms generalizing s with
  | nil => exact ⟨[], (List.append_nil _).symm⟩
  | cons m rest ih =>
    obtain ⟨here, later⟩ := ordinaryCons.mp ordinary
    have first := stepped sizes sound m here
    obtain ⟨more, grown⟩ := ih first.sound later
    rcases first.reported with same | ⟨oc, answer, handle, same, -⟩
    · exact ⟨more, by rw [same] at grown; exact grown⟩
    · exact ⟨_ :: more, by rw [same, List.append_assoc] at grown; exact grown⟩

end Shared
end FeatureStore.Redis

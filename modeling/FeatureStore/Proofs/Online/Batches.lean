import FeatureStore.Proofs.Job.Chunk
import FeatureStore.Proofs.Online.Redis

/-!
Batches of records. A batch goes to the server in consecutive slices with one request for each, and a
request that is answered with an error is the last one. A batch that the server takes leaves what its
records leave one by one.
-/
namespace FeatureStore.Redis

def Fine (replies : List Reply) : Prop := replies.findSome? Reply.error? = none

theorem fineAppend {first rest : List Reply} : Fine (first ++ rest) ↔ Fine first ∧ Fine rest := by
  simp only [Fine, List.findSome?_append, Option.or_eq_none_iff]

def sendEach (context : String) : List (List Command) → Task Talk Unit
  | [] => pure ()
  | commands :: rest => do
    let _ ← sendAll context commands
    sendEach context rest

theorem sendPiecesEach (key : String) (ps : List (List (String × FeatureValue))) :
    sendPieces key ps = sendEach "pipeline" (ps.map (writes key)) := by
  induction ps with
  | nil => rfl
  | cons piece ps ih => simp only [sendPieces, List.map_cons, sendEach, ih]

theorem setEachEach (key : String) (records : List (String × FeatureValue)) :
    OnlineTable.setEach (setValue key) records =
      sendEach "HSET" (records.map fun r => writes key [r]) := by
  induction records with
  | nil => rfl
  | cons r rest ih =>
    simp only [OnlineTable.setEach, setValue, List.map_cons, sendEach, ih, bind_assoc, pure_bind]
    rfl

/- How requests fare with a list of replies: the answer with the replies that are left, or none as long
as a reply is missing, and what has been sent. -/
inductive Sending (context : String) : List (List Command) → List (List Reply) →
    Option (Except Failure Unit × List (List Reply)) → List (List Command) → Prop where
  | done (replies) : Sending context [] replies (some (.ok (), replies)) []
  | waiting (commands rest) : Sending context (commands :: rest) [] none [commands]
  | failed {commands rest reply replies e} (error : reply.findSome? Reply.error? = some e) :
      Sending context (commands :: rest) (reply :: replies)
        (some (.error (.error (refused context e)), replies)) [commands]
  | answered {commands rest reply replies result sent} (fine : Fine reply)
      (tail : Sending context rest replies result sent) :
      Sending context (commands :: rest) (reply :: replies) result (commands :: sent)

theorem sendEachSending (context : String) (requests : List (List Command)) (replies : List (List Reply)) :
    Sending context requests replies ((sendEach context requests).run.replay replies).1
      ((sendEach context requests).run.replay replies).2 := by
  induction requests generalizing replies with
  | nil => exact .done replies
  | cons commands rest ih =>
    rw [sendEach, sendAllAsks]
    cases replies with
    | nil => exact .waiting commands rest
    | cons reply replies =>
      simp only [Dialog.replay]
      cases error : reply.findSome? Reply.error? with
      | some e => exact .failed error
      | none => exact .answered error (ih replies)

namespace Sending
variable {context : String} {requests sent : List (List Command)} {replies rest : List (List Reply)}
  {result : Option (Except Failure Unit × List (List Reply))}

theorem inOrder (sending : Sending context requests replies result sent) : sent <+: requests := by
  induction sending with
  | done => exact List.prefix_refl []
  | waiting commands rest => exact ⟨rest, rfl⟩
  | failed error => exact ⟨_, rfl⟩
  | answered fine tail ih => exact (List.prefix_cons_inj _).mpr ih

theorem goesOn (sending : Sending context requests replies result sent) {i : Nat}
    (more : i + 1 < sent.length) : ∃ reply, replies[i]? = some reply ∧ Fine reply := by
  induction sending generalizing i with
  | done | waiting | failed => simp at more
  | answered fine tail ih =>
    cases i with
    | zero => exact ⟨_, rfl, fine⟩
    | succ i => exact ih (by simpa using more)

theorem okIff (sending : Sending context requests replies result sent) :
    (∃ left, result = some (.ok (), left)) ↔
      ∀ i < requests.length, ∃ reply, replies[i]? = some reply ∧ Fine reply := by
  induction sending with
  | done replies => simp
  | waiting =>
    refine ⟨fun ⟨left, ok⟩ => (by cases ok), fun all => ?_⟩
    obtain ⟨reply, missing, -⟩ := all 0 (Nat.succ_pos _)
    cases missing
  | failed error =>
    refine ⟨fun ⟨left, ok⟩ => (by cases ok), fun all => ?_⟩
    obtain ⟨reply, first, fine⟩ := all 0 (Nat.succ_pos _)
    cases first
    cases error.symm.trans fine
  | answered fine tail ih =>
    refine ih.trans ⟨fun all i before => ?_, fun all i before => all (i + 1) (Nat.succ_lt_succ before)⟩
    cases i with
    | zero => exact ⟨_, rfl, fine⟩
    | succ i => exact all i (Nat.lt_of_succ_lt_succ before)

theorem whole (sending : Sending context requests replies result sent)
    (ok : result = some (.ok (), rest)) : sent = requests := by
  induction sending with
  | done => rfl
  | waiting | failed => cases ok
  | answered fine tail ih => rw [ih ok]

theorem failure (sending : Sending context requests replies result sent) {f : Failure}
    (failed : result = some (.error f, rest)) :
    ∃ reply e, replies[sent.length - 1]? = some reply ∧ reply.findSome? Reply.error? = some e ∧
      f = .error (refused context e) := by
  induction sending with
  | done | waiting => cases failed
  | failed error =>
    cases failed
    exact ⟨_, _, rfl, error, rfl⟩
  | @answered _ _ _ _ _ sent fine tail ih =>
    obtain ⟨reply, e, last, error, same⟩ := ih failed
    refine ⟨reply, e, ?_, error, same⟩
    cases tail with
    | done | waiting => cases failed
    | failed | answered => simpa using last

end Sending

theorem coverNone {size : Nat} (positive : 0 < size) : Chunk.cover 0 size = 0 :=
  Nat.div_eq_of_lt (by omega)

theorem coverNext {size : Nat} (positive : 0 < size) (n : Nat) :
    Chunk.cover (n + 1) size = Chunk.cover (n + 1 - size) size + 1 := by
  have first : Chunk.cover (n + 1) size = n / size + 1 := by
    rw [Chunk.cover, ← Nat.add_div_right n positive]
    congr 1
    omega
  rw [first, Chunk.cover]
  by_cases full : size ≤ n + 1
  · have left : n + 1 - size + size - 1 = n := by omega
    rw [left]
  · rw [Nat.div_eq_of_lt (show n < size by omega), Nat.div_eq_of_lt (by omega)]

theorem piecesFromSliced {size : Nat} (positive : 0 < size) (items : List α) {fuel : Nat}
    (enough : items.length ≤ fuel) :
    piecesFrom fuel size items =
      (List.range (Chunk.cover items.length size)).map fun i => Chunk.slice size i items := by
  induction fuel generalizing items with
  | zero =>
    obtain rfl : items = [] := List.eq_nil_of_length_eq_zero (Nat.le_zero.mp enough)
    simp [piecesFrom, coverNone positive]
  | succ fuel ih =>
    cases items with
    | nil => simp [piecesFrom, coverNone positive]
    | cons x xs =>
      have shorter : ((x :: xs).drop size).length ≤ fuel := by
        simp only [List.length_drop, List.length_cons] at enough ⊢
        omega
      have next (i : Nat) : Chunk.slice size i ((x :: xs).drop size) = Chunk.slice size (i + 1) (x :: xs) := by
        rw [Chunk.slice, Chunk.slice, List.drop_drop, Nat.succ_mul, Nat.add_comm]
      rw [piecesFrom, ih _ shorter, List.length_drop, List.length_cons, coverNext positive,
        List.range_succ_eq_map, List.map_cons, List.map_map]
      · have zero : Chunk.slice size 0 (x :: xs) = (x :: xs).take size := by simp [Chunk.slice]
        simp only [next, zero, Function.comp_def]
      · intro none
        cases none

theorem piecesSliced {size : Nat} (positive : 0 < size) (items : List α) :
    pieces size items = (List.range (Chunk.cover items.length size)).map fun i => Chunk.slice size i items :=
  piecesFromSliced positive items (Nat.le_refl _)

structure BatchSent (key : String) (size : Nat) (records : List (String × FeatureValue))
    (replies : List (List Reply)) (result : Option (Except Failure Unit × List (List Reply)))
    (sent : List (List Command)) : Prop where
  slices : ∀ i commands, sent[i]? = some commands →
    commands = writes key (Chunk.slice size i records) ∧ commands ≠ [] ∧ commands.length ≤ size
  inOrder : sent.flatten = writes key (records.take (sent.length * size))
  goesOn : ∀ i, i + 1 < sent.length → ∃ reply, replies[i]? = some reply ∧ Fine reply
  okIff : (∃ left, result = some (.ok (), left)) ↔
    ∀ i < Chunk.cover records.length size, ∃ reply, replies[i]? = some reply ∧ Fine reply
  whole : ∀ left, result = some (.ok (), left) →
    sent.length = Chunk.cover records.length size ∧ sent.flatten = writes key records
  failure : ∀ f left, result = some (.error f, left) →
    ∃ reply e, replies[sent.length - 1]? = some reply ∧ reply.findSome? Reply.error? = some e ∧
      f = .error (refused "pipeline" e)

theorem batchSent (key : String) {size : Nat} (positive : 0 < size)
    (records : List (String × FeatureValue)) (replies : List (List Reply)) :
    BatchSent key size records replies ((sendPieces key (pieces size records)).run.replay replies).1
      ((sendPieces key (pieces size records)).run.replay replies).2 := by
  have requests : (pieces size records).map (writes key) =
      (List.range (Chunk.cover records.length size)).map fun i =>
        writes key (Chunk.slice size i records) := by
    rw [piecesSliced positive, List.map_map]
    rfl
  have sending := sendEachSending "pipeline" ((pieces size records).map (writes key)) replies
  rw [← sendPiecesEach, requests] at sending
  generalize (sendPieces key (pieces size records)).run.replay replies = ended at sending
  obtain ⟨result, sent⟩ := ended
  -- What has been sent are the first slices, and their commands are those of the first records.
  have count : sent.length ≤ Chunk.cover records.length size := by
    simpa using sending.inOrder.length_le
  have first : sent = (List.range sent.length).map fun i => writes key (Chunk.slice size i records) := by
    have taken := List.prefix_iff_eq_take.mp sending.inOrder
    rwa [← List.map_take, List.take_range, Nat.min_eq_left count] at taken
  have inOrder : sent.flatten = writes key (records.take (sent.length * size)) := by
    rw [first, ← Chunk.slicesUpTo, writes, List.map_flatMap, List.length_map, List.length_range]
    rfl
  constructor
  case slices =>
    intro i commands found
    rw [first, List.getElem?_map, Option.map_eq_some_iff] at found
    obtain ⟨index, listed, rfl⟩ := found
    obtain ⟨before, rfl⟩ := List.getElem?_eq_some_iff.mp listed
    rw [List.length_range] at before
    have within := (Chunk.coverTight positive).mp (Nat.lt_of_lt_of_le before count)
    rw [List.getElem_range]
    refine ⟨rfl, fun none => ?_, by simp [writes, Chunk.slice]⟩
    have shorter := congrArg List.length none
    simp only [writes, Chunk.slice, List.length_map, List.length_take, List.length_drop,
      List.length_nil] at shorter
    omega
  case inOrder => exact inOrder
  case goesOn => exact fun i => sending.goesOn
  case okIff => simpa using sending.okIff
  case whole =>
    intro left ok
    have all : sent.length = Chunk.cover records.length size := by
      simpa using congrArg List.length (sending.whole ok)
    refine ⟨all, ?_⟩
    rw [inOrder, all, List.take_of_length_le (Chunk.coverReaches positive)]
  case failure => exact fun f left => sending.failure

theorem answerAppend (first rest : List Command) (s : Server) :
    (Server.answer (first ++ rest)).run s =
      (((Server.answer first).run s).1 ++ ((Server.answer rest).run ((Server.answer first).run s).2).1,
        ((Server.answer rest).run ((Server.answer first).run s).2).2) := by
  induction first generalizing s with
  | nil => rfl
  | cons c first ih => rw [List.cons_append, answerCons, ih, answerCons]; rfl

theorem onServerAsk (commands : List Command) (next : List Reply → Talk α) (s : Server) :
    (onServer (.ask commands next)).run s =
      (onServer (next ((Server.answer commands).run s).1)).run ((Server.answer commands).run s).2 := rfl

theorem sendEachOk {context : String} {requests : List (List Command)} {s after : Server} :
    (onServer (sendEach context requests).run).run s = (.ok (), after) ↔
      ∃ replies, (Server.answer requests.flatten).run s = (replies, after) ∧ Fine replies := by
  induction requests generalizing s with
  | nil =>
    constructor
    · intro ended
      exact ⟨[], by cases ended; rfl, rfl⟩
    · rintro ⟨replies, answered, -⟩
      cases answered
      rfl
  | cons commands rest ih =>
    rw [sendEach, sendAllAsks, onServerAsk, List.flatten_cons, answerAppend]
    cases error : ((Server.answer commands).run s).1.findSome? Reply.error? with
    | some e =>
      constructor
      · intro ended
        cases ended
      · rintro ⟨replies, answered, fine⟩
        cases answered
        cases error.symm.trans (fineAppend.mp fine).1
    | none =>
      refine ih.trans ⟨?_, ?_⟩
      · rintro ⟨replies, answered, fine⟩
        exact ⟨_, by rw [answered], fineAppend.mpr ⟨error, fine⟩⟩
      · rintro ⟨replies, answered, fine⟩
        obtain ⟨rfl, rfl⟩ := Prod.mk.inj answered
        exact ⟨_, rfl, (fineAppend.mp fine).2⟩

/-- For every list of replies a batch sends its slices in order up to the first error, and against every
server it succeeds with what its records leave one by one. -/
theorem batchesFaithful (c : RedisConfig) (feature variant : String)
    (records : List (String × FeatureValue)) :
    (∀ replies, BatchSent (onlineTableKey c.scope feature variant) (max 1 c.batchSize.val) records replies
      (((table c feature variant).setBatch records).run.replay replies).1
      (((table c feature variant).setBatch records).run.replay replies).2) ∧
    (∀ s after : Server,
      (onServer ((table c feature variant).setBatch records).run).run s = (.ok (), after) ↔
        (onServer (OnlineTable.setEach (table c feature variant).set records).run).run s = (.ok (), after)) ∧
    ∀ (k : Keyspace) received, ∃ later left,
      (onServer ((table c feature variant).setBatch records).run).run (idle k received) =
        (.ok (), idle left later) ∧
      ∀ key, left.hash key =
        if onlineTableKey c.scope feature variant = key then
          (k.hash key).insertAll (records.map fun r => (r.1, encodeValue r.2))
        else k.hash key := by
  have positive : 0 < max 1 c.batchSize.val := by omega
  have batch : (table c feature variant).setBatch records = sendPieces
      (onlineTableKey c.scope feature variant) (pieces (max 1 c.batchSize.val) records) := by
    rw [Nat.max_comm]
    rfl
  refine ⟨fun replies => ?_, fun s after => ?_, fun k received => ?_⟩
  · rw [batch]
    exact batchSent _ positive records replies
  · have each : OnlineTable.setEach (table c feature variant).set records =
        sendEach "HSET" (records.map fun r => writes (onlineTableKey c.scope feature variant) [r]) :=
      setEachEach _ records
    have together : ((pieces (max 1 c.batchSize.val) records).map
        (writes (onlineTableKey c.scope feature variant))).flatten =
          (records.map fun r => writes (onlineTableKey c.scope feature variant) [r]).flatten := by
      have whole : (pieces (max 1 c.batchSize.val) records).flatten = records :=
        piecesWhole positive records (Nat.le_refl _)
      have single : (records.map fun r => writes (onlineTableKey c.scope feature variant) [r]).flatten =
          writes (onlineTableKey c.scope feature variant) records := by
        rw [← List.flatMap_def]
        exact List.map_eq_flatMap.symm
      rw [single]
      exact List.map_flatten.symm.trans (congrArg _ whole)
    rw [batch, each, sendPiecesEach, sendEachOk, sendEachOk, together]
  · obtain ⟨later, ran⟩ := setBatchServes c feature variant records k received
    refine ⟨later, _, ran, fun key => ?_⟩
    rw [writesLeave]
    split
    · rename_i same
      rw [same]
    · rfl

theorem unsizedBatchKeepsLater :
    ∃ later left,
      (onServer ((table { RedisConfig.standard with batchSize := ⟨0, by decide⟩ } "f" "v").setBatch
        [("a", .int 1), ("a", .int 2)]).run).run (idle .empty []) = (.ok (), idle left later) ∧
      (left.hash "f__v").find? "a" = some (encodeValue (.int 2)) := by
  obtain ⟨later, left, ran, hashes⟩ := (batchesFaithful
    { RedisConfig.standard with batchSize := ⟨0, by decide⟩ } "f" "v"
    [("a", .int 1), ("a", .int 2)]).2.2 .empty []
  refine ⟨later, left, ran, ?_⟩
  rw [hashes, if_pos (by decide)]
  simp [Bindings.insertAll, Bindings.findInsert]

end FeatureStore.Redis

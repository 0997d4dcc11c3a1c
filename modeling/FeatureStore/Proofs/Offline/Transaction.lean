import FeatureStore.Proofs.Offline.Following

/-!
Calls of the PostgreSQL store that do their work in one transaction. The list of requests of such a
call says all about it: from it follow where the call can stop, what it has sent until then, and what
of it lasts.
-/
namespace FeatureStore.Postgres
variable {α : Type} {g : Given}

structure Plan where
  before : List Request
  inside : List Request

namespace Plan

def requests (p : Plan) : List Request :=
  p.before ++ .batch startTransaction :: (p.inside ++ [.batch commit])

def lock (mat : MaterializationId) : Request := .query lockQuery [.text mat.text]

end Plan

def Request.isBatch (sql : String) : Request → Bool
  | .batch text => text = sql
  | _ => false

def Request.onCatalog : Request → Bool
  | .query sql _ => sql = currentBuildQuery || sql = insertBuild || sql = deleteBuilds
  | _ => false

theorem isBatchIff {sql : String} {r : Request} : r.isBatch sql = true ↔ r = .batch sql := by
  cases r <;> simp [Request.isBatch]

/-- The requests that count in the end, when the server rolls back a transaction that is left open:
those outside of a transaction that were met, and those inside once the commit was met. `open?` has
those of an open transaction. -/
def lastingFrom : (open? : Option (List Request)) → List (Request × Reply) → List Request
  | _, [] => []
  | open?, (r, reply) :: rest =>
    if met r reply then
      match open? with
      | none =>
        if r.isBatch startTransaction then lastingFrom (some []) rest else r :: lastingFrom none rest
      | some inside =>
        if r.isBatch commit then inside ++ lastingFrom none rest
        else lastingFrom (some (inside ++ [r])) rest
    else lastingFrom open? rest

def lasting (log : List (Request × Reply)) : List Request := lastingFrom none log

theorem lastingAbandoned {log : List (Request × Reply)} (inside : List Request)
    (uncommitted : ∀ e ∈ log, met e.1 e.2 = true → e.1 ≠ .batch commit) :
    lastingFrom (some inside) log = [] := by
  induction log generalizing inside with
  | nil => rfl
  | cons e rest ih =>
    have later := fun held => ih held fun other mem => uncommitted other (List.mem_cons_of_mem e mem)
    simp only [lastingFrom]
    split
    · rename_i ok
      rw [if_neg fun same => uncommitted e List.mem_cons_self ok (isBatchIff.mp same), later]
    · exact later inside

theorem lastingCommitted {inside : List Request} {log : List (Request × Reply)} (held : List Request)
    (requests : log.map (·.1) = inside ++ [.batch commit]) (apart : .batch commit ∉ inside)
    (all : ∀ e ∈ log, met e.1 e.2 = true) : lastingFrom (some held) log = held ++ inside := by
  induction inside generalizing log held with
  | nil =>
    obtain ⟨e, rfl, same⟩ := List.map_eq_singleton_iff.mp requests
    have ok := all e List.mem_cons_self
    simp only [lastingFrom, ok, isBatchIff.mpr same, if_true, List.append_nil]
  | cons r inside ih =>
    obtain ⟨e, rest, rfl, rfl, more⟩ := List.map_eq_cons_iff.mp requests
    simp only [List.mem_cons, not_or] at apart
    have other : ¬ e.1.isBatch commit = true := fun same => apart.1 (isBatchIff.mp same).symm
    simp only [lastingFrom, all e List.mem_cons_self, other, if_true, if_false, Bool.false_eq_true]
    rw [ih (held ++ [e.1]) more apart.2 fun other mem => all other (List.mem_cons_of_mem e mem)]
    simp

namespace Plan

structure Proper (p : Plan) : Prop where
  apart : ∀ r ∈ p.before ++ p.inside, r ≠ .batch startTransaction ∧ r ≠ .batch commit
  outside : ∀ r ∈ p.before, r.onCatalog = false
  locked : (∃ mat rest, p.inside = lock mat :: rest) ∨ ∀ r ∈ p.inside, r.onCatalog = false

variable {p : Plan}

theorem lastingWhole (proper : p.Proper) {log : List (Request × Reply)}
    (requests : log.map (·.1) = p.requests) (all : ∀ e ∈ log, met e.1 e.2 = true) :
    lasting log = p.before ++ p.inside := by
  obtain ⟨before, inside⟩ := p
  have apart := proper.apart
  clear proper
  induction before generalizing log with
  | nil =>
    obtain ⟨e, rest, rfl, start, more⟩ := List.map_eq_cons_iff.mp requests
    have started : e.1.isBatch startTransaction = true := isBatchIff.mpr start
    rw [lasting]
    simp only [lastingFrom, all e List.mem_cons_self, started, if_true]
    exact lastingCommitted [] more (fun mem => (apart _ mem).2 rfl) fun other mem =>
      all other (List.mem_cons_of_mem e mem)
  | cons r before ih =>
    obtain ⟨e, rest, rfl, rfl, more⟩ := List.map_eq_cons_iff.mp requests
    have other : ¬ e.1.isBatch startTransaction = true := fun same =>
      (apart e.1 (by simp)).1 (isBatchIff.mp same)
    have later := ih (fun other mem => all other (List.mem_cons_of_mem e mem)) more
      fun other mem => apart other (List.mem_cons_of_mem e.1 mem)
    rw [lasting] at later ⊢
    simp only [lastingFrom, all e List.mem_cons_self, other, if_true, if_false, Bool.false_eq_true, later]
    rfl

theorem unmetLast {e : Request × Reply} {rest : List (Request × Reply)}
    (heeded : ∀ i f, i + 1 < (e :: rest).length → (e :: rest)[i]? = some f → met f.1 f.2 = true)
    (unmet : ¬ met e.1 e.2 = true) : rest = [] := by
  rcases rest with _ | ⟨f, rest⟩
  · rfl
  · exact absurd (heeded 0 e (by simp) rfl) unmet

theorem nothingBefore {lasts before : List Request} (none : lasts = []) : lasts <+: before := by
  subst none
  exact List.nil_prefix

theorem lastingBefore {log : List (Request × Reply)} {before inside : List Request}
    (requests : log.map (·.1) <+: before ++ .batch startTransaction :: inside)
    (heeded : ∀ i f, i + 1 < log.length → log[i]? = some f → met f.1 f.2 = true)
    (uncommitted : ∀ f ∈ log, met f.1 f.2 = true → f.1 ≠ .batch commit) : lasting log <+: before := by
  induction before generalizing log with
  | nil =>
    rcases log with _ | ⟨e, rest⟩
    · exact List.nil_prefix
    simp only [List.nil_append, List.map_cons, List.cons_prefix_cons] at requests
    refine nothingBefore ?_
    simp only [lasting, lastingFrom, isBatchIff.mpr requests.1, if_true]
    split
    · exact lastingAbandoned [] fun f mem => uncommitted f (List.mem_cons_of_mem e mem)
    · rename_i unmet
      rw [unmetLast heeded unmet, lastingFrom]
  | cons r before ih =>
    rcases log with _ | ⟨e, rest⟩
    · exact List.nil_prefix
    simp only [List.cons_append, List.map_cons, List.cons_prefix_cons] at requests
    have later := ih requests.2 (fun i f more found => heeded (i + 1) f (by simpa using more) found)
      fun f mem => uncommitted f (List.mem_cons_of_mem e mem)
    rw [lasting] at later ⊢
    simp only [lastingFrom]
    split
    · split
      · exact nothingBefore (lastingAbandoned [] fun f mem => uncommitted f (List.mem_cons_of_mem e mem))
      · rw [requests.1]
        exact (List.prefix_cons_inj r).mpr later
    · rename_i unmet
      exact nothingBefore (by rw [unmetLast heeded unmet, lastingFrom])

end Plan

structure Atomic (g : Given) (p : Plan) (replies : List Reply) (x : Heard Unit) : Prop where
  -- The requests are sent in their order,
  ordered : x.2 <+: p.requests
  -- and each only after the replies to all before let the call go on.
  heeded {i : Nat} : i + 1 < x.2.length → ∃ e, (x.2.zip replies)[i]? = some e ∧ Warrants g e
  -- The entries of the catalog are read and changed in the transaction, under the lock.
  locked {j : Nat} {r : Request} : x.2[j]? = some r → r.onCatalog = true →
    ∃ i k mat, i < k ∧ k < j ∧ x.2[i]? = some (.batch startTransaction) ∧
      x.2[k]? = some (Plan.lock mat)
  -- The commit is sent last, when all else is done.
  whole : .batch commit ∈ x.2 → x.2 = p.requests ∧
    ∀ e ∈ x.2.zip replies, e.1 ≠ .batch commit → Warrants g e
  -- The call succeeds exactly when the server has met its commit.
  committed : (∃ rest, x.1 = some (.ok (), rest)) ↔
    ∃ reply, (.batch commit, reply) ∈ x.2.zip replies ∧ met (.batch commit) reply = true
  -- It ends otherwise with an error, at the first reply that does not let it go on.
  failed {f : Failure} {rest : List Reply} : x.1 = some (.error f, rest) →
    (∃ e, f = .error e) ∧ ∃ e, (x.2.zip replies).getLast? = some e ∧ ¬ Warrants g e
  -- It waits for replies only.
  waits : x.1 = none → x.2.length = replies.length + 1
  -- All that was asked lasts, or nothing of what was asked in the transaction.
  lasting : (∃ rest, x.1 = some (.ok (), rest)) ∧ lasting (x.2.zip replies) = p.before ++ p.inside ∨
    (¬ ∃ rest, x.1 = some (.ok (), rest)) ∧ lasting (x.2.zip replies) <+: p.before

theorem zipRequests (sent : List Request) (replies : List Reply) :
    (sent.zip replies).map (·.1) <+: sent := by
  induction sent generalizing replies with
  | nil => exact List.nil_prefix
  | cons r sent ih =>
    cases replies with
    | nil => exact List.nil_prefix
    | cons reply replies => exact (List.prefix_cons_inj r).mpr (ih replies)

theorem warrantsCommit {reply : Reply} :
    Warrants g (.batch commit, reply) ↔ met (.batch commit) reply = true := by
  simp [Warrants, Suits]

theorem queriesApart :
    (tableTypeQuery ≠ currentBuildQuery ∧ tableTypeQuery ≠ deleteBuilds ∧ currentBuildQuery ≠ deleteBuilds) ∧
      (insertBuild ≠ tableTypeQuery ∧ insertBuild ≠ currentBuildQuery ∧ insertBuild ≠ deleteBuilds) ∧
      (lockQuery ≠ tableTypeQuery ∧ lockQuery ≠ currentBuildQuery ∧ lockQuery ≠ deleteBuilds) ∧
      lockQuery ≠ insertBuild := by
  decide +kernel

theorem Plan.lockFree (mat : MaterializationId) : (lock mat).onCatalog = false := by
  obtain ⟨-, -, ⟨-, notCurrent, notDelete⟩, notInsert⟩ := queriesApart
  simp [lock, Request.onCatalog, notCurrent, notInsert, notDelete]

theorem Plan.Proper.lockFirst {p : Plan} (proper : p.Proper) {j : Nat} {r : Request}
    (found : p.requests[j]? = some r) (onCatalog : r.onCatalog = true) :
    ∃ i k mat, i < k ∧ k < j ∧ p.requests[i]? = some (.batch startTransaction) ∧
      p.requests[k]? = some (Plan.lock mat) := by
  have start : p.requests[p.before.length]? = some (.batch startTransaction) := by
    simp [Plan.requests]
  have second : p.requests[p.before.length + 1]? = (p.inside ++ [.batch commit])[0]? := by
    simp [Plan.requests]
  have notBefore : p.before.length ≤ j := by
    refine Nat.le_of_not_lt fun early => ?_
    rw [Plan.requests, List.getElem?_append_left (by omega)] at found
    simp [proper.outside r (List.mem_of_getElem? found)] at onCatalog
  have notStart : j ≠ p.before.length := by
    rintro rfl
    rw [start] at found
    cases found
    cases onCatalog
  rcases proper.locked with ⟨mat, rest, same⟩ | free
  · refine ⟨_, _, mat, Nat.lt_succ_self _, ?_, start, by rw [second, same]; rfl⟩
    refine Nat.lt_of_le_of_ne (by omega) fun same' => ?_
    rw [← same', second, same] at found
    cases found
    simp [Plan.lockFree] at onCatalog
  · rw [Plan.requests, List.getElem?_append_right notBefore, List.getElem?_cons,
      if_neg (by omega)] at found
    rcases List.mem_append.mp (List.mem_of_getElem? found) with mem | mem
    · simp [free r mem] at onCatalog
    · cases List.mem_singleton.mp mem
      cases onCatalog

theorem Plan.requestsEnd (p : Plan) :
    p.requests = (p.before ++ .batch startTransaction :: p.inside) ++ [.batch commit] := by
  simp [Plan.requests]

theorem Plan.Proper.commitLast {p : Plan} (proper : p.Proper) :
    .batch commit ∉ p.before ++ .batch startTransaction :: p.inside := by
  have other : Request.batch commit ≠ .batch startTransaction := by
    simp [commit, startTransaction]
  have notCommit := fun r mem => (proper.apart r mem).2
  simp only [List.mem_append, List.mem_cons, not_or] at notCommit ⊢
  exact ⟨fun mem => notCommit _ (.inl mem) rfl, other, fun mem => notCommit _ (.inr mem) rfl⟩

namespace Follows
variable {p : Plan} {replies : List Reply} {x : Heard Unit}

theorem committedIff (follows : Follows g p.requests replies x) (proper : p.Proper) :
    (∃ rest, x.1 = some (.ok (), rest)) ↔
      ∃ reply, (.batch commit, reply) ∈ x.2.zip replies ∧ met (.batch commit) reply = true := by
  have last := p.requestsEnd
  constructor
  · rintro ⟨rest, ended⟩
    obtain ⟨answered, all⟩ := follows.succeeded ended
    have inside : .batch commit ∈ (x.2.zip replies).map (·.1) := by rw [answered, last]; simp
    obtain ⟨e, mem, same⟩ := List.mem_map.mp inside
    exact ⟨e.2, by rw [← same]; exact mem, by have := (all e mem).1; rwa [same] at this⟩
  · rintro ⟨reply, mem, ok⟩
    obtain ⟨⟨⟩, rest, ended⟩ := (last ▸ follows).finished proper.commitLast mem (warrantsCommit.mpr ok)
    exact ⟨rest, ended⟩

theorem sentWhole (follows : Follows g p.requests replies x) (proper : p.Proper)
    (sent : .batch commit ∈ x.2) : x.2 = p.requests := by
  rcases List.prefix_concat_iff.mp (p.requestsEnd ▸ follows.ordered) with whole | early
  · exact whole.trans p.requestsEnd.symm
  · exact absurd (early.subset sent) proper.commitLast

theorem lockedFirst (follows : Follows g p.requests replies x) (proper : p.Proper) {j : Nat} {r : Request}
    (found : x.2[j]? = some r) (onCatalog : r.onCatalog = true) :
    ∃ i k mat, i < k ∧ k < j ∧ x.2[i]? = some (.batch startTransaction) ∧
      x.2[k]? = some (Plan.lock mat) := by
  have alike (i : Nat) (short : i < x.2.length) : p.requests[i]? = x.2[i]? := by
    obtain ⟨more, whole⟩ := follows.ordered
    rw [← whole, List.getElem?_append_left short]
  obtain ⟨short, -⟩ := List.getElem?_eq_some_iff.mp found
  obtain ⟨i, k, mat, first, second, start, locked⟩ :=
    proper.lockFirst ((alike j short).trans found) onCatalog
  exact ⟨i, k, mat, first, second, (alike i (by omega)).symm.trans start,
    (alike k (by omega)).symm.trans locked⟩

theorem warrantedAhead (follows : Follows g p.requests replies x) {i : Nat} {e : Request × Reply}
    (more : i + 1 < x.2.length) (there : (x.2.zip replies)[i]? = some e) : Warrants g e := by
  obtain ⟨f, found, warranted⟩ := follows.heeded more
  rw [there] at found
  cases found
  exact warranted

theorem warrantedBesides (follows : Follows g p.requests replies x) (proper : p.Proper)
    (sent : .batch commit ∈ x.2) {e : Request × Reply} (inside : e ∈ x.2.zip replies)
    (other : e.1 ≠ .batch commit) : Warrants g e := by
  obtain ⟨i, there⟩ := List.mem_iff_getElem?.mp inside
  have asked := (List.getElem?_zip_eq_some.mp there).1
  obtain ⟨short, -⟩ := List.getElem?_eq_some_iff.mp asked
  refine follows.warrantedAhead (Nat.lt_of_not_le fun final => ?_) there
  -- The last request that is sent is the commit.
  have whole := (follows.sentWhole proper sent).trans p.requestsEnd
  have place : i = (p.before ++ .batch startTransaction :: p.inside).length := by
    have size := congrArg List.length whole
    simp only [List.length_append, List.length_singleton] at size ⊢
    omega
  rw [whole, place, List.getElem?_concat_length] at asked
  exact other (Option.some.inj asked).symm

theorem lastsWholeOrNot (follows : Follows g p.requests replies x) (proper : p.Proper) :
    (∃ rest, x.1 = some (.ok (), rest)) ∧ lasting (x.2.zip replies) = p.before ++ p.inside ∨
      (¬ ∃ rest, x.1 = some (.ok (), rest)) ∧ lasting (x.2.zip replies) <+: p.before := by
  by_cases succeeded : ∃ rest, x.1 = some (.ok (), rest)
  · obtain ⟨rest, ended⟩ := succeeded
    obtain ⟨answered, all⟩ := follows.succeeded ended
    exact .inl ⟨⟨rest, ended⟩, p.lastingWhole proper answered fun e mem => (all e mem).1⟩
  · have asked : (x.2.zip replies).map (·.1) <+:
        p.before ++ .batch startTransaction :: (p.inside ++ [.batch commit]) :=
      (zipRequests _ _).trans follows.ordered
    refine .inr ⟨succeeded, Plan.lastingBefore asked (fun i e more found => ?_) fun e mem ok same => ?_⟩
    · simp only [List.length_zip] at more
      exact (follows.warrantedAhead (by omega) found).1
    · exact succeeded ((follows.committedIff proper).mpr
        ⟨e.2, by rw [← same]; exact mem, by rwa [same] at ok⟩)

theorem atomic (follows : Follows g p.requests replies x) (proper : p.Proper) : Atomic g p replies x where
  ordered := follows.ordered
  heeded := follows.heeded
  locked := follows.lockedFirst proper
  whole sent := ⟨follows.sentWhole proper sent, fun _ => follows.warrantedBesides proper sent⟩
  committed := follows.committedIff proper
  failed := follows.failed
  waits := follows.waits
  lasting := follows.lastsWholeOrNot proper

end Follows
end FeatureStore.Postgres

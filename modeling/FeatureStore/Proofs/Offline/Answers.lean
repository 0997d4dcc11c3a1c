import FeatureStore.Proofs.Offline.TableCalls

/-!
Tasks of the PostgreSQL store that succeed. Whether a task does is put down to the replies that its
statements get, one lemma for each statement, so that no proof runs a script.
-/
namespace FeatureStore.Postgres
variable {α β : Type} {replies rest : List Reply} {a : α}

def Answers (t : Task Talk α) (replies : List Reply) (a : α) (rest : List Reply) : Prop :=
  (heard t replies).1 = some (.ok a, rest)

theorem answersPure {b : α} :
    Answers (pure b : Task Talk α) replies a rest ↔ b = a ∧ replies = rest := by
  have ended : heard (pure b : Task Talk α) replies = (some (.ok b, replies), []) := rfl
  simp [Answers, ended]

theorem answersFail {e : Error} : ¬ Answers (Task.fail e : Task Talk α) replies a rest := by
  intro answers
  cases answers

theorem answersExcept {checked : Except Error α} :
    Answers (Task.ofExcept checked) replies a rest ↔ checked = .ok a ∧ replies = rest := by
  cases checked with
  | error e => simp [Task.ofExcept, answersFail]
  | ok b => simp [Task.ofExcept, answersPure]

theorem answersBind {t : Task Talk α} {f : α → Task Talk β} {b : β} :
    Answers (t >>= f) replies b rest ↔ ∃ a left, Answers t replies a left ∧ Answers (f a) left b rest := by
  simp only [Answers, heardBind]
  rcases heard t replies with ⟨_ | ⟨_ | a, left⟩, sent⟩ <;> simp [Heard.andThen, and_assoc]

theorem answersConnect {u : Unit} :
    Answers connect replies u rest ↔ ∃ first, replies = first :: rest ∧ met .connection first = true := by
  rcases replies with _ | ⟨first, more⟩
  · have waiting : heard connect [] = (none, [.connection]) := rfl
    simp [Answers, waiting]
  · obtain ⟨f, opened⟩ : ∃ f, heard connect (first :: more) =
        (some (if met .connection first then .ok () else .error f, more), [.connection]) := by
      cases first with
      | refused reason => exact ⟨_, rfl⟩
      | _ => exact ⟨.panic, rfl⟩
    rcases connected : met .connection first <;>
      simp [Answers, opened, connected, and_assoc, and_comm]

theorem answersAsk {r : Request} {read : Reply → Except Refusal α} {error : Refusal → Error} :
    Answers (ask r read error) replies a rest ↔
      ∃ reply, replies = reply :: rest ∧ toldBy read error reply = .ok a := by
  rcases replies with _ | ⟨reply, more⟩
  · have waiting : heard (ask r read error) [] = (none, [r]) := rfl
    simp [Answers, waiting]
  · rw [Answers, heardAsk]
    rcases told : toldBy read error reply with e | b
    · simp [Task.mapErrorError, told]
    · simp [Task.mapErrorOk, told, and_assoc, and_comm]

theorem answersFirstCell {row : List Cell} {name : String} :
    Answers (firstCell row Cell.asText) replies name rest ↔ nameOf row = some name ∧ replies = rest := by
  rcases row with _ | ⟨cell, cells⟩
  · have stops : heard (firstCell [] Cell.asText) replies = (some (.error .panic, replies), []) := rfl
    simp [Answers, stops, nameOf]
  · have read : nameOf (cell :: cells) = cell.asText := rfl
    simp only [firstCell, readCell, List.getElem?_cons_zero, read]
    cases cell.asText with
    | none =>
      have stops : heard (throw .panic : Task Talk String) replies = (some (.error .panic, replies), []) :=
        rfl
      simp [Answers, stops]
    | some s => simp [answersPure]

theorem answersOptional {sql : String} {params : List Param} {error : Refusal → Error}
    {row : List Cell} :
    Answers (queryOptional sql params error) replies (some row) rest ↔
      ∃ reply, replies = reply :: rest ∧ rowsOf reply = [row] := by
  rw [queryOptional, answersAsk]
  refine exists_congr fun reply => and_congr_right fun _ => ?_
  cases reply with
  | rows rows =>
    rcases rows with _ | ⟨one, _ | ⟨another, more⟩⟩ <;>
      simp [toldBy, rowsOf, Task.mapErrorOk, Task.mapErrorError]
  | _ => simp [toldBy, rowsOf, Task.mapErrorOk]

theorem answersQuery {sql : String} {params : List Param} {error : Refusal → Error}
    {rows : List (List Cell)} :
    Answers (query sql params error) replies rows rest ↔
      ∃ reply, replies = reply :: rest ∧ (∀ state, reply ≠ .failed state) ∧ rowsOf reply = rows := by
  rw [query, answersAsk]
  refine exists_congr fun reply => and_congr_right fun _ => ?_
  cases reply <;> simp [toldBy, Task.mapErrorOk]

theorem answersTableType {table kind : String} :
    Answers (tableType table) replies (some kind) rest ↔
      ∃ first reply row, replies = first :: reply :: rest ∧ met .connection first = true ∧
        rowsOf reply = [row] ∧ nameOf row = some kind := by
  simp only [tableType, answersBind, answersConnect]
  constructor
  · rintro ⟨_, _, ⟨first, rfl, connected⟩, row, left, optional, answers⟩
    cases row with
    | none => simp [answersPure] at answers
    | some row =>
      obtain ⟨reply, rfl, one⟩ := answersOptional.mp optional
      simp only [answersBind, answersFirstCell, answersPure] at answers
      obtain ⟨name, _, ⟨named, rfl⟩, ⟨rfl⟩, rfl⟩ := answers
      exact ⟨first, reply, row, rfl, connected, one, named⟩
  · rintro ⟨first, reply, row, rfl, connected, one, named⟩
    refine ⟨(), _, ⟨first, rfl, connected⟩, some row, rest, answersOptional.mpr ⟨reply, rfl, one⟩, ?_⟩
    simp only [answersBind, answersFirstCell, answersPure]
    exact ⟨kind, rest, ⟨named, rfl⟩, rfl, rfl⟩

def Gives (replies : List Reply) (t : Task Talk α) : Prop := ∃ a rest, Answers t replies a rest

def Listed (replies : List Reply) : Prop :=
  ∃ first reply rest row, replies = first :: reply :: rest ∧ met .connection first = true ∧
    rowsOf reply = [row] ∧ (nameOf row).isSome = true

def Runs (replies : List Reply) : Prop :=
  ∃ first reply rest, replies = first :: reply :: rest ∧ met .connection first = true ∧
    ∀ state, reply ≠ .failed state

theorem givesChecked {check : Except Error Unit} {t : Unit → Task Talk α} :
    Gives replies (Task.ofExcept check >>= t) ↔ check = .ok () ∧ Gives replies (t ()) := by
  simp only [Gives, answersBind, answersExcept]
  constructor
  · rintro ⟨a, rest, _, _, ⟨passed, rfl⟩, answers⟩
    exact ⟨passed, a, rest, answers⟩
  · rintro ⟨passed, a, rest, answers⟩
    exact ⟨a, rest, (), replies, ⟨passed, rfl⟩, answers⟩

theorem givesListed {table : String} {f : Option String → Task Talk α}
    (absent : ∀ left a rest, ¬ Answers (f none) left a rest)
    (found : ∀ kind left, ∃ a, Answers (f (some kind)) left a left) :
    Gives replies (tableType table >>= f) ↔ Listed replies := by
  simp only [Gives, answersBind]
  constructor
  · rintro ⟨a, rest, _ | kind, left, looked, answers⟩
    · exact (absent left a rest answers).elim
    · obtain ⟨first, reply, row, rfl, connected, one, named⟩ := answersTableType.mp looked
      exact ⟨first, reply, left, row, rfl, connected, one, by rw [named]; rfl⟩
  · rintro ⟨first, reply, rest, row, rfl, connected, one, named⟩
    obtain ⟨kind, named⟩ := Option.isSome_iff_exists.mp named
    obtain ⟨a, answers⟩ := found kind rest
    exact ⟨a, rest, some kind, rest, answersTableType.mpr ⟨first, reply, row, rfl, connected, one, named⟩,
      answers⟩

theorem requireGives {table kind text : String} {t : PrimaryTable Talk} :
    Gives replies (do requireTable table kind text; return t) ↔ Listed replies := by
  rw [requireTable, bind_assoc]
  refine givesListed (fun left a rest answers => ?_) fun kind left => ⟨t, ?_⟩
  · cases answers
  · rfl

end FeatureStore.Postgres

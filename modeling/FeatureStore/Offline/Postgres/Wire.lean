import FeatureStore.Dialog
import FeatureStore.Offline.Postgres.Statement

/-!
What the store asks a PostgreSQL server and what it gets back. Reading a cell fails when the column has
another type, or when it is null and no null is expected.
-/
namespace FeatureStore.Postgres

inductive Param where
  | text (s : String)
  | json (j : Json)
  | bigint (n : Int64)
  -- A time as microseconds since the year 2000.
  | time (micros : Int)
  deriving BEq, Repr

inductive Request where
  | connection
  -- A word that names no other build.
  | token
  | batch (sql : String)
  | query (sql : String) (params : List Param)
  | prepare (sql : String)
  deriving BEq, Repr

inductive Cell where
  | text (value : Option String)
  | json (value : Option Json)
  | bigint (value : Option Int64)
  | time (micros : Option Int)
  deriving BEq, Repr

inductive Reply where
  | done
  | refused (reason : String)
  | failed (state : String)
  | columns (names : List String)
  | rows (rows : List (List Cell))
  | token (word : String)
  deriving BEq, Repr

abbrev Talk := Dialog Request Reply

def serverError : String := "db error"

def rowCountError : String := "query returned an unexpected number of rows"

inductive CellFault where
  | missing (column : Nat)
  | wrongType (column : Nat)
  deriving DecidableEq, Repr

def CellFault.message : CellFault → String
  | missing column => "invalid column `" ++ toString column ++ "`"
  | wrongType column => "error deserializing column " ++ toString column

def readCell (row : List Cell) (column : Nat) (read : Cell → Option α) : Except CellFault α :=
  match row[column]? with
  | none => .error (.missing column)
  | some cell =>
    match read cell with
    | some a => .ok a
    | none => .error (.wrongType column)

def Cell.asText : Cell → Option String
  | .text value => value
  | _ => none

def Cell.asJson : Cell → Option Json
  | .json value => value
  | _ => none

def Cell.asOptionalJson : Cell → Option (Option Json)
  | .json value => some value
  | _ => none

def Cell.asBigint : Cell → Option Int64
  | .bigint value => value
  | _ => none

def Cell.asTime : Cell → Option Timestamp
  | .time (some micros) => Timestamp.ofMicros? micros
  | _ => none

structure Refusal where
  -- The code of the server; empty when the client refused the reply.
  state : String
  text : String
  deriving DecidableEq, Repr

def Refusal.about (r : Refusal) (context kind id : String) : Error :=
  if r.state = "42P07" then .alreadyExists kind id
  else if r.state = "42P01" then .notFound kind id
  else .storage context r.text

def Refusal.plain (r : Refusal) (context : String) : Error := .storage context r.text

def connect : Task Talk Unit := do
  match ← ExceptT.lift (Dialog.send .connection) with
  | .refused reason => Task.fail (.storage "Pool get error"
      ("Error occurred while creating a new object: " ++ reason))
  | _ => return ()

def ask (r : Request) (read : Reply → Except Refusal α) (error : Refusal → Error) : Task Talk α := do
  match ← ExceptT.lift (Dialog.send r) with
  | .failed state => Task.fail (error ⟨state, serverError⟩)
  | reply =>
    match read reply with
    | .ok a => return a
    | .error refusal => Task.fail (error refusal)

def batch (sql : String) (error : Refusal → Error) : Task Talk Unit :=
  ask (.batch sql) (fun _ => .ok ()) error

def execute (sql : String) (params : List Param) (error : Refusal → Error) : Task Talk Unit :=
  ask (.query sql params) (fun _ => .ok ()) error

def rowsOf : Reply → List (List Cell)
  | .rows rows => rows
  | _ => []

def query (sql : String) (params : List Param) (error : Refusal → Error) :
    Task Talk (List (List Cell)) :=
  ask (.query sql params) (fun reply => .ok (rowsOf reply)) error

def queryOptional (sql : String) (params : List Param) (error : Refusal → Error) :
    Task Talk (Option (List Cell)) :=
  ask (.query sql params)
    (fun reply =>
      match rowsOf reply with
      | [] => .ok none
      | [row] => .ok (some row)
      | _ => .error ⟨"", rowCountError⟩)
    error

def queryOne (sql : String) (params : List Param) (error : Refusal → Error) :
    Task Talk (List Cell) :=
  ask (.query sql params)
    (fun reply =>
      match rowsOf reply with
      | [row] => .ok row
      | _ => .error ⟨"", rowCountError⟩)
    error

def prepare (sql : String) (error : Refusal → Error) : Task Talk (List String) :=
  ask (.prepare sql)
    (fun reply =>
      match reply with
      | .columns names => .ok names
      | _ => .ok [])
    error

def firstCell (row : List Cell) (read : Cell → Option α) : Task Talk α :=
  match readCell row 0 read with
  | .ok a => return a
  | .error _ => throw .panic

def freshToken : Task Talk String := do
  match ← ExceptT.lift (Dialog.send .token) with
  | .token word => return word
  | _ => return ""

end FeatureStore.Postgres

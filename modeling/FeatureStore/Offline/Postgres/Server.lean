import FeatureStore.Offline.Postgres.Store

/-!
A PostgreSQL server that answers from a script: each statement takes the next reply, and succeeds
without rows when the script has ended.
-/
namespace FeatureStore.Postgres

structure Server where
  script : List Reply
  received : List Request
  connections : List (Nat × PostgresConfig.Startup)
  builds : Nat
  deriving Repr

namespace Server

def empty : Server := ⟨[], [], [], 0⟩

instance : Inhabited Server := ⟨empty⟩

def tokenOf (n : Nat) : String := "#" ++ toString n

def connect (pool : Nat) (who : PostgresConfig.Startup) (s : Server) : Server :=
  if s.connections.any fun c => c.1 == pool then s
  else { s with connections := s.connections ++ [(pool, who)] }

def answer (pool : Nat) (who : PostgresConfig.Startup) : Request → StateM Server Reply
  | .connection => do
    modify (connect pool who)
    return .done
  | .token => do
    let s ← get
    set { s with builds := s.builds + 1 }
    return .token (tokenOf s.builds)
  | r => do
    let s ← get
    set { s with script := s.script.drop 1, received := s.received ++ [r] }
    return s.script.headD .done

end Server

def onServer {α : Type} (pool : Nat) (who : PostgresConfig.Startup) (d : Talk α) : StateM Server α :=
  d.run (Server.answer pool who)

def onNothing {α : Type} (reason : String) (d : Talk α) : StateM Server α :=
  d.run fun _ => return .refused reason

end FeatureStore.Postgres

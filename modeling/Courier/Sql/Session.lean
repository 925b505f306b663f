import Courier.Program
import Courier.Sql.Value

/-!
# Sessions

What is said to a database: a connection is taken from a pool, and statements are run on it. Each
statement is refused or answered with rows and the number of rows that it has affected.

* `Request`, `Session`: what is asked, and the programs that ask it.
* `execute`, `fetchAll`, `fetchFirst`: a statement alone, by what is wanted of its answer.
* `transaction`: statements that count together or not at all.
-/

namespace Courier.Sql

/-- A statement with the values of its parameters. -/
structure Statement where
  text : String
  params : List Value

/-- The answer to a statement. -/
structure Reply where
  rows : List Row
  affected : Nat

/-- What is asked of a database. -/
inductive Request
  /-- For a connection. -/
  | connect
  /-- To run a statement on it. -/
  | run (statement : Statement)

/-- What comes back. -/
abbrev Request.Answer : Request → Type
  | connect => Except Failure Unit
  | run _ => Except Failure Reply

/-- A program that talks to a database. -/
abbrev Session (α : Type) := Program Request Request.Answer α

/-- Runs a statement on a connection. -/
def run (text : String) (params : List Value) : Session (Except Failure Reply) :=
  .ask (.run ⟨text, params⟩) .done

/-- Takes a connection. -/
def connect : Session (Except Failure Unit) := .ask .connect .done

/-- Takes a connection and runs a statement on it. -/
def query (text : String) (params : List Value) : Session (Except Failure Reply) := do
  match ← connect with
  | .error failure => return .error failure
  | .ok _ => run text params

/-- Runs a statement, and says how many rows it has affected. -/
def execute (text : String) (params : List Value) : Session (Except Failure Nat) := do
  let reply ← query text params
  return reply.map (·.affected)

/-- Runs a statement and reads all its rows, of which the first that cannot be read counts. -/
def fetchAll {α : Type} (read : Row → Except Failure α) (text : String) (params : List Value) :
    Session (Except Failure (List α)) := do
  let reply ← query text params
  return reply.bind fun reply => reply.rows.mapM read

/-- Runs a statement and reads its first row, if there is one. -/
def fetchFirst {α : Type} (read : Row → Except Failure α) (text : String) (params : List Value) :
    Session (Except Failure (Option α)) := do
  let reply ← query text params
  return reply.bind fun reply => reply.rows.head?.mapM read

/-! ### Transactions -/

/-- Takes back what has been done since the beginning of a transaction. -/
def rollBack : Session (Except Failure Unit) := do
  let reply ← run "ROLLBACK" []
  return reply.map fun _ => ()

/-- Takes a connection and begins a transaction on it. -/
def begin : Session (Except Failure Unit) := do
  let reply ← query "BEGIN" []
  return reply.map fun _ => ()

/-- Makes what has been done since the beginning of a transaction count. If that is refused, it is
    taken back. -/
def commit : Session (Except Failure Unit) := do
  match ← run "COMMIT" [] with
  | .ok _ => return .ok ()
  | .error failure =>
    let _ ← rollBack
    return .error failure

/-- Ends a transaction without its having counted. If taking it back is refused, it is tried once
    more. -/
def abandon : Session (Except Failure Unit) := do
  match ← rollBack with
  | .ok _ => return .ok ()
  | .error failure =>
    let _ ← rollBack
    return .error failure

/-- Runs a session in a transaction, which counts if the session succeeds. -/
def transaction (session : Session (Except Failure Unit)) : Session (Except Failure Unit) := do
  match ← begin with
  | .error failure => return .error failure
  | .ok _ =>
    match ← session with
    | .error failure =>
      let _ ← rollBack
      return .error failure
    | .ok _ => commit

/-! ### Statements -/

/-- A table of a database with the names of its columns. -/
structure Relation where
  name : String
  columns : List String

namespace Relation

/-- The names of the columns with commas between them. -/
def columnList (r : Relation) : String := ", ".intercalate r.columns

/-- The parameters from the first to the one with the given number. -/
def parameters (count : Nat) : String :=
  ", ".intercalate ((List.range count).map fun i => "$" ++ Text.number (i + 1))

/-- The statement that puts a row into the table. -/
def insertion (r : Relation) : String :=
  "INSERT INTO " ++ r.name ++ " (" ++ r.columnList ++ ") VALUES (" ++
    parameters r.columns.length ++ ")"

/-- The statement that looks for rows of the table. -/
def selection (r : Relation) (condition : String) : String :=
  "SELECT " ++ r.columnList ++ " FROM " ++ r.name ++ " WHERE " ++ condition

end Relation

end Courier.Sql

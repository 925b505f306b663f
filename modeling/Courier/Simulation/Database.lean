import Courier.Sql.Session

/-!
# A scripted database

A database that knows nothing and answers every statement by a script. Statements without a scripted
reply succeed.

* `Database.run`: runs a session, and lists the statements that reach the database.
-/

namespace Courier.Simulation

/-- A reply of the script to a statement. -/
inductive DatabaseReply
  | refused (text : String)
  | answered (reply : Sql.Reply)

/-- A database with the replies to come. -/
structure Database where
  replies : List DatabaseReply
  isClosed : Bool
  /-- The statements that have reached the database. -/
  statements : List Sql.Statement

namespace Database

/-- A database without a script. -/
def new : Database := ⟨[], false, []⟩

/-- The reply to a statement for which the script has none. -/
def plainReply : Sql.Reply := ⟨[], 1⟩

/-- Answers a request. -/
def answer : (q : Sql.Request) → Database → q.Answer × Database
  | .connect, db => (if db.isClosed then .error .poolClosed else .ok (), db)
  | .run statement, db =>
    let db := { db with statements := db.statements ++ [statement] }
    match db.replies with
    | [] => (.ok plainReply, db)
    | .refused text :: rest => (.error (.refused text), { db with replies := rest })
    | .answered reply :: rest => (.ok reply, { db with replies := rest })

/-- Runs a session, and lists the statements that reach the database. -/
def run {α : Type} (session : Sql.Session α) (db : Database) : α × List Sql.Statement × Database :=
  let (a, db) := Program.run answer session { db with statements := [] }
  (a, db.statements, { db with statements := [] })

end Database

end Courier.Simulation

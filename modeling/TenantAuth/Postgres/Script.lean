-- A server that follows a script: what it replies to each statement is laid
-- down beforehand. The client that talks to it counts a transaction when it
-- has it.

import TenantAuth.Postgres.Link

namespace TenantAuth.Postgres

instance : TransactionManager := .countingLast

/-- One reply, to a statement whose text holds the pattern. -/
structure ScriptEntry where
  pattern : String
  reply : Statement → Except Failure Outcome

namespace ScriptEntry

def column? : Json.Read → Option (String × ColumnType)
  | .array [name, type] => do some (← name.string?, ← ColumnType.ofName? (← type.string?))
  | _ => none

/-- A row of values, by the given columns. -/
def row? (columns : List (String × ColumnType)) (values : List Json.Read) : Option Row := do
  let cells ← (columns.zip values).mapM fun ((name, type), v) => do
    some (name, ← Cell.ofJson? type v)
  some ⟨cells⟩

/-- An entry in JSON. The columns are those that the statement answers with, and
the rows are counted as changed, unless the entry says otherwise. -/
def ofJson? (v : Json.Read) : Option ScriptEntry := do
  let pattern ← v.textOf? "match"
  let rows ← v.memberOr "rows" (Json.list? Json.array?) []
  let columns ← v.memberOrNone "columns" (Json.list? column?)
  let changed ← v.memberOr "affected" Json.int? rows.length
  let refusal ← v.memberOrNone "error" fun e => do
    some (Failure.server (← e.textOf? "code") (← e.textOf? "message"))
  let reply (s : Statement) : Outcome :=
    ⟨(rows.mapM (row? (columns.getD s.columns))).getD [], changed.toNat⟩
  some ⟨pattern, fun s => refusal.elim (.ok (reply s)) .error⟩

end ScriptEntry

/-- A server and what is left of its script. -/
structure ScriptedServer where
  entries : List ScriptEntry
  /-- The statements it was sent, newest first. -/
  sent : List Statement
  /-- There are no connections to it any more. -/
  closed : Bool

namespace ScriptedServer

/-- A text stands somewhere in another. -/
def occursIn (pattern : List Char) : List Char → Bool
  | [] => pattern.isEmpty
  | c :: cs => pattern.isPrefixOf (c :: cs) || occursIn pattern cs

/-- The first entry for a text, and the other ones. -/
def take? (text : String) : List ScriptEntry → Option (ScriptEntry × List ScriptEntry)
  | [] => none
  | e :: es =>
    if occursIn e.pattern.toList text.toList then some (e, es)
    else (take? text es).map fun (found, rest) => (found, e :: rest)

/-- The text by which a script names the connection itself. -/
def startup : String := "STARTUP"

/-- One call. A statement uses up its entry; one without an entry succeeds, and
neither finds nor changes anything. -/
def answer : (c : Call) → ScriptedServer → Option c.Reply × ScriptedServer
  | .connect .., server =>
    match server.entries.find? fun e => e.pattern = startup with
    | some e => (some ((e.reply .begin).map fun _ => ()), server)
    | none => (some (.ok ()), server)
  | .acquire, server => (some (if server.closed then .error .closed else .ok ()), server)
  | .send s, server =>
    let server := { server with sent := s :: server.sent }
    match take? s.sql server.entries with
    | some (e, entries) => (some (e.reply s), { server with entries })
    | none => (some (.ok ⟨[], 0⟩), server)

end ScriptedServer

end TenantAuth.Postgres

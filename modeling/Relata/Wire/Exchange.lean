import Relata.Engine
import Relata.Sql.Statement
import Relata.Wire

/-!
Statements executed by a server. A statement is prepared, its parameters are encoded at the types
that the server infers for them, and the answer's cells are decoded at the types of its columns.
Tables are created and dropped by simple statements. A server here is a script: it answers every
statement alike, and may refuse at one kind of message.
-/

namespace Relata

inductive Message
  | prepare (sql : String)
  | bind (parameters : List (Option Bytes))
  | simple (sql : String)
  deriving DecidableEq

/-- The messages that a server may refuse. -/
inductive Stage
  | parse
  | execute
  | simple
  deriving DecidableEq

structure ServerRefusal where
  stage : Stage
  code : String
  message : String

structure WireColumn where
  name : String
  type : WireType

structure Server where
  parameters : List WireType
  columns : List WireColumn
  rows : List (List (Option Bytes))
  /-- The name of the finished command, with the number of rows at its end. -/
  tag : String
  refusal : Option ServerRefusal

/-- What became of a request, and what was sent for it. -/
abbrev Exchange (α : Type) := Except Error α × List Message

namespace Server

/-- The server's error, if it refuses at that stage. -/
def refusal? (server : Server) (stage : Stage) : Option Error :=
  match server.refusal with
  | some refusal =>
    if refusal.stage = stage then some (.of (.driver "db error" ["ERROR: " ++ refusal.message]))
    else none
  | none => none

/-- What keeps a text from being sent: a zero character ends the texts of messages, so none may hold
one. -/
def sendError? (text : String) : Option Error :=
  if text.toList.contains (Char.ofNat 0) then
    some (.of (.driver "error encoding message to server" []))
  else none

/-- Encodes parameters from position `i` on. -/
def encodeFrom (i : Nat) : List WireType → List Value → Except Error (List (Option Bytes))
  | type :: types, v :: values =>
    match v.encode type with
    | .error _ => .error (.of (.driver ("error serializing parameter " ++ toString i) []))
    | .ok bytes => do return bytes :: (← encodeFrom (i + 1) types values)
  | _, _ => .ok []

def encodeAll (types : List WireType) (values : List Value) :
    Except Error (List (Option Bytes)) :=
  if types.length = values.length then encodeFrom 0 types values
  else .error (.of (.driver
    ("expected " ++ toString types.length ++ " parameters but got " ++ toString values.length) []))

/-- Decodes the cells of a row from position `i` on. -/
def decodeFrom (i : Nat) : List WireColumn → List (Option Bytes) → Except Error (List Value)
  | column :: columns, cell :: cells =>
    match column.type.decode cell with
    | .ok v => do return v :: (← decodeFrom (i + 1) columns cells)
    | .error .unsupportedType =>
      .error (.unsupportedFeature
        ("column `" ++ column.name ++ "` has unsupported type `" ++ column.type.name ++ "`"))
    | .error _ => .error (.of (.driver ("error deserializing column " ++ toString i) []))
  | _, _ => .ok []

/-- The number that a word denotes, with or without a plus sign; none past 64 bits. -/
def wordCount? (word : List Char) : Option Nat :=
  let digits := match word with
    | '+' :: rest => rest
    | word => word
  let n := digits.foldl (fun n c => n * 10 + (c.toNat - '0'.toNat)) 0
  if digits.isEmpty || !digits.all Char.isDigit || n ≥ 18446744073709551616 then none else some n

/-- The number at the end of a tag; a tag without one counts no rows. -/
def tagCount (tag : String) : Nat :=
  (wordCount? (tag.toList.reverse.takeWhile (· != ' ')).reverse).getD 0

/-- The answer to an executed statement. Without rows the columns stay unknown. -/
def answer (server : Server) (returnsRows : Bool) : Except Error Response :=
  if returnsRows then do
    let rows ← server.rows.mapM (decodeFrom 0 server.columns)
    return .rows ⟨if rows.isEmpty then [] else server.columns.map WireColumn.name, rows⟩
  else .ok (.count (tagCount server.tag))

def exec (server : Server) (statement : Statement) : Exchange Response :=
  let sql := statement.sql
  let prepared := Message.prepare (sql.numbered 0)
  match sendError? (sql.numbered 0), server.refusal? .parse with
  | some e, _ => (.error e, [])
  | none, some e => (.error e, [prepared])
  | none, none =>
    match encodeAll server.parameters sql.parameters with
    | .error e => (.error e, [prepared])
    | .ok cells =>
      let sent := [prepared, .bind cells]
      match server.refusal? .execute with
      | some e => (.error e, sent)
      | none => (server.answer statement.returnsRows, sent)

/-- Runs a command as it is written. -/
def command (server : Server) (sql : Sql) : Exchange Unit :=
  match sendError? sql.inline, server.refusal? .simple with
  | some e, _ => (.error e, [])
  | none, some e => (.error e, [.simple sql.inline])
  | none, none => (.ok (), [.simple sql.inline])

/-- Runs commands up to the first that fails. -/
def commands (server : Server) : List Sql → Exchange Unit
  | [] => (.ok (), [])
  | sql :: rest =>
    match server.command sql with
    | (.error e, sent) => (.error e, sent)
    | (.ok (), sent) =>
      let (result, others) := server.commands rest
      (result, sent ++ others)

def createTable (server : Server) (table : Table) : Exchange Unit :=
  server.command table.create.sql

def dropTable (server : Server) (table : Table) (ifExists : Bool) : Exchange Unit :=
  server.command (table.drop ifExists).sql

def reset (server : Server) (tables : List Table) : Exchange Unit :=
  server.commands (tables.flatMap fun table => [(table.drop true).sql, table.create.sql])

end Server

end Relata

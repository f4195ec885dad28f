import Relata.Session
import Relata.Url

/-!
Connections, by address. The scheme of an address says what to connect to: a server, by host and
database, or tables kept in memory. An address is checked before anything is connected to.
-/

namespace Relata

/-- Where a server's database is, and who asks for it. -/
structure ServerAddress where
  host : String
  /-- The number after the host, if one is given. -/
  portNumber : Option Nat
  database : String
  user : Option String
  password : Option String
  deriving DecidableEq

inductive Target
  | memory
  | server (address : ServerAddress)
  deriving DecidableEq

/-- The error of an address that does not do; `shown` is the address. -/
def connectionError (fault shown : String) : Error :=
  .of (.invalidConnectionUrl (fault ++ "; url=" ++ shown))

/-- Reads an address; an error shows the text as it was given. -/
def parseUrl (text : String) : Except Error Url :=
  (Url.parse text).mapError fun fault => connectionError fault.message text

def isServerScheme (scheme : String) : Bool := scheme == "postgresql" || scheme == "postgres"

/-- A text that is not empty. -/
def given (text : String) : Option String := if text = "" then none else some text

/-- The server that an address names. Errors show the address in its normal form. -/
def ServerAddress.ofUrl (url : Url) : Except Error ServerAddress :=
  if !isServerScheme url.scheme then
    .error (connectionError "connection URL does not have a `postgresql` scheme" url.display)
  else match url.authority with
    | some ⟨username, password, some host, portNumber⟩ =>
      let path := url.path.display
      if path = "" ∨ path = "/" then
        .error (connectionError "no database specified - missing path in connection URL"
          url.display)
      else .ok {
        host := host.display
        portNumber := portNumber
        database := String.ofList (path.toList.dropWhile (· == '/'))
        user := given username
        password := given password }
    | _ => .error (connectionError "missing host in connection URL" url.display)

def ServerAddress.parse (text : String) : Except Error ServerAddress := do
  ServerAddress.ofUrl (← parseUrl text)

def Target.parse (text : String) : Except Error Target := do
  let url ← parseUrl text
  if isServerScheme url.scheme then return .server (← ServerAddress.ofUrl url)
  else if url.scheme = "memory" then return .memory
  else throw (connectionError ("unsupported scheme `" ++ url.scheme ++ "`") text)

/-- Reaches for a server. None can be reached from here. -/
def ServerAddress.connect {α : Type} (_ : ServerAddress) : Except Error α :=
  .error (.of (.driver "error connecting to server" []))

def connectServer {α : Type} (text : String) : Except Error α := do
  (← ServerAddress.parse text).connect

/-- Connects to what a text names. The address is checked before the schema is. -/
def connect (schema : Option Schema) (text : String) (clock : Clock) : Except Error Session := do
  match ← Target.parse text with
  | .server address => address.connect
  | .memory =>
    match schema with
    | some schema => return Session.start schema clock
    | none => throw (.adhoc "no schema set on the database builder")

end Relata

import Logbook.Fault
import Logbook.Text.Case
import Logbook.Text.Integer
import Logbook.Text.Search

/-!
# The connection to the primary store

The address of the store and its engine. An address of PostgreSQL is changed so that it names the
asynchronous driver, and engines for it are not pooled. There is an engine only for an address that
can be read and names a driver that is installed and can be waited for.
-/

namespace Logbook

/-- Puts `new` in place of `old` at the start of a text. -/
def replaceStart (old new : String) (s : List Char) : List Char :=
  if old.toList.isPrefixOf s then new.toList ++ s.drop old.length else s

/-- The address that names the asynchronous driver of PostgreSQL. -/
def normalizeUrl (url : String) : String :=
  let s := replaceStart "postgres://" "postgresql://" url.toList
  String.ofList
    (if Text.occursIn "+asyncpg".toList s then s
    else replaceStart "postgresql://" "postgresql+asyncpg://" s)

/-- The parts of an address that an engine depends on: the kind of database with its driver, who
asks, and where the database is. -/
structure DatabasePlace where
  kind : String
  user : List Char
  password : List Char
  host : List Char
  port : List Char

namespace DatabasePlace

/-- May a character stand in the kind of a database? -/
def isKindChar (c : Char) : Bool :=
  c.isAlphanum || c == '_' || c == '+' || (128 ≤ c.val && (Text.isCased c || Text.isDigit c))

/-- The name and password before the place of a database, and what stands behind them. The name
ends at the last at sign before a colon or slash, the password at the first one. -/
def splitUser (s : List Char) : List Char × List Char × List Char :=
  let (name, rest) := s.span fun c => c != ':' && c != '/'
  let (password, behind) := rest.span (· != '@')
  if rest.head? = some ':' ∧ !behind.isEmpty then (name, password.drop 1, behind.drop 1)
  else
    let place := (name.reverse.takeWhile (· != '@')).reverse
    if '@' ∈ name then (name.take (name.length - place.length - 1), [], place ++ rest)
    else ([], [], s)

/-- The host at the start of a text, and what stands behind it. -/
def splitHost (s : List Char) : List Char × List Char :=
  let bracketed := s.takeWhile fun c => c != '/' && c != '?'
  let tail := bracketed.reverse.takeWhile (· != ']')
  if s.head? = some '[' ∧ 3 ≤ bracketed.length - tail.length then
    let n := bracketed.length - tail.length
    ((s.take (n - 1)).drop 1, s.drop n)
  else s.span fun c => c != '/' && c != ':' && c != '?'

/-- The place that an address names. -/
def ofUrl? (url : String) : Option DatabasePlace :=
  let (kind, rest) := url.toList.span isKindChar
  if kind.isEmpty || !"://".toList.isPrefixOf rest then none
  else
    let (user, password, rest) := splitUser (rest.drop 3)
    let (host, rest) := splitHost rest
    let port := match rest with
      | ':' :: r => r.takeWhile fun c => c != '/' && c != '?'
      | _ => []
    some ⟨String.ofList kind, user, password, host, port⟩

/-- The drivers that can be used. -/
def readyDrivers : List String := ["sqlite+aiosqlite", "postgresql+asyncpg"]

/-- The drivers that keep their callers waiting. -/
def blockingDrivers : List String := ["sqlite", "sqlite+pysqlite"]

/-- The drivers that are known and not installed, by the kind of database; an empty name stands for
the driver of an address that names none. -/
def missingDrivers : List (String × List String) :=
  let mysql := ["", "mysqldb", "pymysql", "aiomysql", "asyncmy", "cymysql", "mariadbconnector",
    "mysqlconnector", "pyodbc"]
  [("postgresql", ["", "pg8000", "psycopg", "psycopg_async", "psycopg2", "psycopg2cffi"]),
    ("mysql", mysql), ("mariadb", mysql), ("mssql", ["", "pyodbc", "pymssql", "aioodbc"]),
    ("oracle", ["", "cx_oracle", "oracledb", "oracledb_async"]), ("sqlite", ["pysqlcipher"])]

/-- Does a place lie on this machine, where nobody is asked who asks? -/
def isLocal (p : DatabasePlace) : Bool :=
  p.user.isEmpty && p.password.isEmpty && p.host.isEmpty &&
    (p.port.isEmpty || Text.integer? p.port == some 0)

/-- The fault of an engine for a place. -/
def fault? (p : DatabasePlace) : Option Fault :=
  if !p.port.isEmpty && (Text.integer? p.port).isNone then some .badValue
  else match (Text.splitOn ['+'] p.kind.toList).map String.ofList with
    | family :: driver =>
      if 1 < driver.length then some .badValue
      else if ((missingDrivers.lookup family).getD []).contains (driver.headD "") then
        some .noDriver
      else if p.kind ∉ readyDrivers ++ blockingDrivers then some .noDialect
      else if family = "sqlite" ∧ !p.isLocal then some .badArgument
      else if p.kind ∈ blockingDrivers then some .blockingDriver
      else none
    | [] => some .noDialect

end DatabasePlace

/-- The fault of an engine for an address. -/
def engineFault? (url : String) : Option Fault :=
  match DatabasePlace.ofUrl? url with
  | some place => place.fault?
  | none => some .badArgument

/-- An address and whether there is an engine for it. -/
structure Database where
  url : String
  engine : Bool := false
  deriving DecidableEq, Repr

/-- What can be asked of a database. -/
inductive DatabaseCall where
  | connect
  | createTables
  | session
  | close
  deriving DecidableEq, Repr

namespace Database

/-- Is there an engine that makes a new connection each time? -/
def unpooled (d : Database) : Bool :=
  d.engine && "postgresql".toList.isPrefixOf d.url.toList

/-- One call: its fault, if it fails, and the database after it. -/
def call (d : Database) : DatabaseCall → Option Fault × Database
  | .connect =>
    if d.engine then (none, d)
    else match engineFault? d.url with
      | some f => (some f, d)
      | none => (none, { d with engine := true })
  | .createTables => (if d.engine then none else some .noOperation, d)
  | .session => (if d.engine then none else some .crash, d)
  | .close => (none, { d with engine := false })

/-- Calls one after the other: the fault of each and the database after it. -/
def calls : List DatabaseCall → Database → List (Option Fault × Database)
  | [], _ => []
  | c :: r, d =>
    let (f, d) := d.call c
    (f, d) :: calls r d

end Database

end Logbook

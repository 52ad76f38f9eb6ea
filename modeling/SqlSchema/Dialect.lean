import SqlSchema.Quote
import SqlSchema.Text.Basic
/-!
# SQL dialects

What differs between dialects: the delimiters of quoted identifiers and, for MySQL, the comment sign
and the escapes in string literals. `auto` stands for whatever the script itself suggests.
-/
namespace SqlSchema

inductive Dialect
  | auto
  | generic
  | postgres
  | mysql
  | sqlServer
deriving DecidableEq, Repr

namespace Dialect

/-- The accepted names of a dialect, without regard to case. -/
def ofName? (s : String) : Option Dialect :=
  let name := Text.lower s
  if name = "auto" then some auto
  else if name = "generic" then some generic
  else if name = "postgres" ∨ name = "postgresql" then some postgres
  else if name = "mysql" ∨ name = "mariadb" then some mysql
  else if name = "sqlserver" ∨ name = "mssql" ∨ name = "tsql" then some sqlServer
  else none

/-- The dialect's name as events show it. -/
def name : Dialect → String
  | auto => "Auto"
  | generic => "Generic"
  | postgres => "PostgreSQL"
  | mysql => "MySQL"
  | sqlServer => "SqlServer"

def quoteStyles : Dialect → List QuoteStyle
  | postgres => [.double]
  | mysql => [.backtick, .double]
  | sqlServer => [.bracket, .double]
  | auto => [.backtick, .bracket, .double]
  | generic => [.backtick, .bracket, .double]

/-- The style of the dialect that a character opens. -/
def styleOpening? (d : Dialect) (c : Char) : Option QuoteStyle :=
  d.quoteStyles.find? (fun q => q.opening == c)

/-- Whether `pattern` occurs in the text. -/
def occursIn (pattern : List Char) : List Char → Bool
  | [] => pattern.isEmpty
  | c :: cs => pattern.isPrefixOf (c :: cs) || occursIn pattern cs

/-- Phrases that give a dialect away, in the order in which they are tried: what the header of a dump
says goes before the words in it. -/
def clues : List (Dialect × List String) :=
  [(postgres, ["postgresql database dump", "pg_dump", "-- postgres"]),
   (mysql, ["mysql dump", "mysqldump", "-- mysql"]),
   (postgres, ["serial", "timestamptz", "with time zone"]),
   (mysql, ["auto_increment", "engine=", "unsigned", "\x60"]),
   (sqlServer, ["[dbo]", "identity(", "nvarchar", "clustered"])]

/-- The dialect of the first clue that the text holds, without regard to case. -/
def detect (text : String) : Dialect :=
  let lower := (Text.lower text).toList
  let found := clues.find? (fun clue => clue.2.any (fun p => occursIn p.toList lower))
  (found.map (·.1)).getD generic

/-- The dialect itself, or the detected one in place of `auto`. -/
def resolve (d : Dialect) (text : String) : Dialect :=
  match d with
  | auto => detect text
  | concrete => concrete

end Dialect

end SqlSchema

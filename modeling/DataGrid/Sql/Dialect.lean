/-!
# SQL dialects

The three databases differ in how they write placeholders, conversions to text and timestamps, and
the place of nulls in an order.
-/

namespace DataGrid.Sql

inductive Dialect where
  | duckdb
  | postgres
  | sqlite
deriving DecidableEq, Repr

/-- Puts an identifier between quotes. -/
def quote (name : String) : String := "\"" ++ name ++ "\""

namespace Dialect

def name : Dialect → String
  | duckdb => "duckdb"
  | postgres => "postgres"
  | sqlite => "sqlite"

def all : List Dialect := [duckdb, postgres, sqlite]

def ofName? (s : String) : Option Dialect := all.find? (·.name = s)

/-- The small letter of a capital one, as far as small ASCII letters have capitals: the Kelvin sign
is one more capital of `k`. -/
def smallLetter (c : Char) : Char := if c = '\u212a' then 'k' else c.toLower

/-- Reads a name in letters of any case; PostgreSQL has two. -/
def ofWord? (word : String) : Option Dialect :=
  let small := String.ofList (word.toList.map smallLetter)
  if small = "postgresql" then some postgres else ofName? small

/-- The message for a word that names no dialect. -/
def invalidWord (word : String) : String :=
  "Invalid SQL dialect '" ++ word ++ "'. Valid options: duckdb, postgres, sqlite"

/-- The placeholder of the parameter with this number, from 1 on. -/
def placeholder : Dialect → Nat → String
  | postgres, n => "$" ++ toString n
  | duckdb, _ | sqlite, _ => "?"

/-- The text of a column of any type. -/
def castText (column : String) : Dialect → String
  | duckdb => "CAST(" ++ column ++ " AS VARCHAR)"
  | postgres => column ++ "::TEXT"
  | sqlite => "CAST(" ++ column ++ " AS TEXT)"

/-- A placeholder for the text of a timestamp, which is compared as one. -/
def timestamp (placeholder : String) : Dialect → String
  | duckdb => "CAST(" ++ placeholder ++ " AS TIMESTAMP)"
  | postgres => placeholder ++ "::TIMESTAMP"
  | sqlite => "datetime(" ++ placeholder ++ ")"

/-- A key of an order. SQLite has no word for the place of nulls, so there they get a key of their
own before it. -/
def orderTerm (column : String) (descending nullsLast : Bool) (dialect : Dialect) : String :=
  let direction := if descending then "DESC" else "ASC"
  match dialect with
  | sqlite =>
    "CASE WHEN " ++ column ++ " IS NULL THEN " ++ (if nullsLast then "1 ELSE 0" else "0 ELSE 1")
      ++ " END, " ++ column ++ " " ++ direction
  | duckdb | postgres =>
    column ++ " " ++ direction ++ (if nullsLast then " NULLS LAST" else " NULLS FIRST")

end Dialect

/-- The part of a statement that picks a page. -/
def limitOffset (limit offset : Nat) : String :=
  "LIMIT " ++ toString limit ++ " OFFSET " ++ toString offset

end DataGrid.Sql

import EntityQuery.Json
import EntityQuery.Report.Grid
import EntityQuery.Value.Text

/-!
# Reports

A report is a list of sections, each of which has a title, the names of its
columns, and rows of values. It is written as text, where a section is drawn as a
grid under its title, or as a document, where a section is an object with its
title and its rows, and a row is an object with a member for each column.

A row need not have a value for every column, nor a column for every value. The
grid leaves room for both; the document only has the columns that the row has a
value for (`rowMembers`). Its members are in the order of their names, and of
several columns with one name the last counts.
-/

namespace EntityQuery.Report

/-- A part of a report. -/
structure Section where
  title : String
  columns : List String
  rows : List (List Value)

/-- The text of a value in a grid: a string stands for itself. -/
def cellText : Value → String
  | .string s => s
  | v => v.text

/-- A member put into an object, whose members are in the order of their names; it
    takes the place of one of the same name. -/
def putMember (name : String) (v : Json) : List (String × Json) → List (String × Json)
  | [] => [(name, v)]
  | (n, e) :: rest =>
    if name = n then (name, v) :: rest
    else if name < n then (name, v) :: (n, e) :: rest
    else (n, e) :: putMember name v rest

/-- The members of a row, column by column. -/
def rowMembers (columns : List String) (row : List Value) : List (String × Json) :=
  (columns.zip row).foldl (fun ms (column, v) => putMember column v.json ms) []

namespace Section

/-- The grid of a section. -/
def grid (s : Section) : Grid := ⟨s.columns, s.rows.map (·.map cellText)⟩

/-- A section as text. -/
def text (s : Section) : String :=
  s.title ++ "\n" ++ if s.rows.isEmpty then "No results" else s.grid.text

/-- A section in a document. -/
def json (s : Section) : Json :=
  .object [("title", .string s.title),
    ("rows", .array (s.rows.map fun row => .object (rowMembers s.columns row)))]

end Section

/-- How a report is written. -/
inductive Format where
  | table
  | json
  deriving DecidableEq, Repr

namespace Format

/-- Every format. -/
def all : List Format := [table, json]

/-- The name of a format. -/
def name : Format → String
  | table => "table"
  | json => "json"

/-- The format of a name. -/
def ofName? (name : String) : Option Format := all.find? (·.name == name)

/-- A report in the format. -/
def write (f : Format) (sections : List Section) : String :=
  match f with
  | table => "\n\n".intercalate (sections.map (·.text))
  | json => (Json.array (sections.map (·.json))).pretty

theorem ofName?_name (f : Format) : ofName? f.name = some f := by
  cases f <;> decide

end Format

end EntityQuery.Report

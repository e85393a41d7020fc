import ElementRules.Double

/-!
TOML documents as values, and the rules by which the lines of a document build its tables. A table
remembers how it came about, because that decides who may still add to it: a header may complete a
table that was only implied by other headers, dotted keys may extend what dotted keys began and pass
through what headers implied, and an inline table is complete as it stands.
-/

namespace ElementRules

inductive TableOrigin
  /-- Only implied by the header of a table inside it. -/
  | implied
  | header
  | dotted
  | inline
deriving DecidableEq, Repr

inductive Toml
  | string (s : String)
  | integer (i : Int)
  | float (x : Double)
  | bool (flag : Bool)
  /-- A date, a time of day or both; nothing asks for its content. -/
  | dateTime
  | array (items : List Toml)
  | table (origin : TableOrigin) (entries : List (String × Toml))
  /-- An array of tables that headers build, latest first. -/
  | tables (items : List (List (String × Toml)))

namespace Toml

abbrev Entries := List (String × Toml)

def find? (entries : Entries) (key : String) : Option Toml :=
  (entries.find? (·.1 == key)).map (·.2)

/-- Puts a value in the place of the one under the key, or at the end. -/
def put (key : String) (value : Toml) : Entries → Entries
  | [] => [(key, value)]
  | entry :: rest => if entry.1 == key then (key, value) :: rest else entry :: put key value rest

/-- Writes a value into the table at the end of a path of keys, of which the last is the value's
own. No key is written twice. The tables on the way are implied or dotted ones, or the latest of an
array of tables, and the value itself goes only into a dotted table (`here`) or into the one where
the path starts. -/
def insertAt (value : Toml) : (here : Bool) → (path : List String) → Entries → Option Entries
  | _, [], _ => none
  | here, [key], entries =>
    match here, find? entries key with
    | true, none => some (put key value entries)
    | _, _ => none
  | _, key :: path, entries =>
    match find? entries key with
    | none => (insertAt value true path []).map fun inner =>
        put key (.table .dotted inner) entries
    | some (.table .dotted inner) => (insertAt value true path inner).map fun inner =>
        put key (.table .dotted inner) entries
    | some (.table .implied inner) => (insertAt value false path inner).map fun inner =>
        put key (.table .implied inner) entries
    | some (.tables (last :: items)) => (insertAt value false path last).map fun last =>
        put key (.tables (last :: items)) entries
    | some _ => none

/-- Writes a value under a dotted key. -/
def insert (value : Toml) (path : List String) (entries : Entries) : Option Entries :=
  insertAt value true path entries

/-- Opens the table of a header, or one more table of an array of tables. -/
def openTable (oneMore : Bool) : (path : List String) → Entries → Option Entries
  | [], _ => none
  | [key], entries =>
    match find? entries key, oneMore with
    | none, false => some (put key (.table .header []) entries)
    | some (.table .implied inner), false => some (put key (.table .header inner) entries)
    | none, true => some (put key (.tables [[]]) entries)
    | some (.tables items), true => some (put key (.tables ([] :: items)) entries)
    | _, _ => none
  | key :: path, entries =>
    match find? entries key with
    | none => (openTable oneMore path []).map fun inner =>
        put key (.table .implied inner) entries
    | some (.table .inline _) => none
    | some (.table origin inner) => (openTable oneMore path inner).map fun inner =>
        put key (.table origin inner) entries
    | some (.tables (last :: items)) => (openTable oneMore path last).map fun last =>
        put key (.tables (last :: items)) entries
    | some _ => none

/-- Changes the table that a header has opened. -/
def atTable (change : Entries → Option Entries) : (path : List String) → Entries → Option Entries
  | [], entries => change entries
  | key :: path, entries =>
    match find? entries key with
    | some (.table origin inner) => (atTable change path inner).map fun inner =>
        put key (.table origin inner) entries
    | some (.tables (last :: items)) => (atTable change path last).map fun last =>
        put key (.tables (last :: items)) entries
    | _ => none

end Toml

end ElementRules

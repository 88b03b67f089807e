import PyxProject.Text.Basic

/-!
# Values of a configuration file

The values that the format TOML can express, as far as a configuration asks for
them: a number or a date is known to be one, and its magnitude is of no interest.
-/

namespace PyxProject.Toml

/-- How a table came to be, which decides who may add to it. -/
inductive Origin where
  /-- By its own header. -/
  | header
  /-- On the way to the table of another header. -/
  | passed
  /-- On the way of a dotted key. -/
  | dotted
  /-- Between braces, after which it is complete. -/
  | inline
deriving DecidableEq, Repr

/-- A value. -/
inductive Value where
  | string (text : Text)
  | boolean (value : Bool)
  | number
  | dateTime
  | array (items : List Value)
  | table (origin : Origin) (entries : List (Text × Value))
  /-- The tables of a header in double brackets, the last one first. -/
  | tables (latest : List (Text × Value)) (earlier : List (List (Text × Value)))

/-- The entries of a table. -/
abbrev Table := List (Text × Value)

/-- The value of a key. -/
def Table.get? (table : Table) (key : Text) : Option Value :=
  (table.find? fun entry => entry.1 == key).map Prod.snd

/-- Give a key a value, in place of one that it may have. -/
def Table.set (table : Table) (key : Text) (value : Value) : Table :=
  table.filter (fun entry => entry.1 != key) ++ [(key, value)]

/-- Add a value under a dotted key. The tables on the way are entered, and made where
they are missing, except those that have a header of their own. The key itself has to
be new, and the table that it is added to has to come from a dotted key. -/
def Table.insert (value : Value) : List Text → Table → Option Table
  | [], _ => none
  | [key], table =>
    match table.get? key with
    | some _ => none
    | none => some (table.set key value)
  | key :: rest, table =>
    match table.get? key with
    | none => (Table.insert value rest []).map fun inner => table.set key (.table .dotted inner)
    | some (.table .dotted inner) =>
      (Table.insert value rest inner).map fun changed => table.set key (.table .dotted changed)
    | some (.table .passed inner) =>
      if rest.length = 1 then none
      else (Table.insert value rest inner).map fun changed =>
        table.set key (.table .passed changed)
    | some (.tables latest earlier) =>
      if rest.length = 1 then none
      else (Table.insert value rest latest).map fun changed =>
        table.set key (.tables changed earlier)
    | some _ => none

/-- Change the table at a path of keys. Of several tables with one name, the latest
one is entered. -/
def Table.modify (change : Table → Option Table) : List Text → Table → Option Table
  | [], table => change table
  | key :: rest, table =>
    match table.get? key with
    | none => (Table.modify change rest []).map fun inner => table.set key (.table .passed inner)
    | some (.table .inline _) => none
    | some (.table origin inner) =>
      (Table.modify change rest inner).map fun changed => table.set key (.table origin changed)
    | some (.tables latest earlier) =>
      (Table.modify change rest latest).map fun changed =>
        table.set key (.tables changed earlier)
    | some _ => none

/-- Open the table of a header. It must not have had a header or come from a dotted
key before. -/
def Table.define (key : Text) (table : Table) : Option Table :=
  match table.get? key with
  | none => some (table.set key (.table .header []))
  | some (.table .passed inner) => some (table.set key (.table .header inner))
  | some _ => none

/-- Open a further table of a header in double brackets. -/
def Table.append (key : Text) (table : Table) : Option Table :=
  match table.get? key with
  | none => some (table.set key (.tables [] []))
  | some (.tables latest earlier) => some (table.set key (.tables [] (latest :: earlier)))
  | some _ => none

end PyxProject.Toml

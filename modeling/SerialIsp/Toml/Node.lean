/-!
# Documents

A document is a tree of tables. How a table came to be decides whether it can be extended:
a header may complete a table that was only passed through on the way to another, keys with
dots may extend only what keys with dots made, and an inline table is closed.
-/

namespace SerialIsp.Toml

/-- How a table came to be. -/
inductive Origin where
  /-- By its own header, or as the root. -/
  | header
  /-- On the way to the table of a header. -/
  | passed
  /-- On the way to a key with dots. -/
  | dotted
  /-- In braces. -/
  | inline
  deriving DecidableEq, Repr, Inhabited

/-- A value, or a table of a document. Numbers with a fraction, and dates and times, are
    kept as they were written. -/
inductive Node where
  | string (s : String)
  | integer (n : Int)
  | float (written : String)
  | boolean (b : Bool)
  | dateTime (written : String)
  | array (items : List Node)
  | table (origin : Origin) (entries : List (String × Node))
  /-- Tables under one name, the last one first. -/
  | tables (instances : List (List (String × Node)))
  deriving Repr, Inhabited

/-- The entries of a table. -/
abbrev Entries : Type := List (String × Node)

namespace Entries

/-- Puts a node under a key, in place of one that is there. -/
def put (key : String) (node : Node) : Entries → Entries
  | [] => [(key, node)]
  | e :: rest => if e.1 = key then (key, node) :: rest else e :: put key node rest

/-- Changes the table a path leads to, given its origin and its entries. Tables that are
    missing on the way are made; `dotted` tells for what kind of path. Of tables under one
    name the last one is meant. A value, and a table that must not be extended, ends the
    path. -/
def descend (dotted : Bool) (change : Origin → Entries → Option Entries) :
    (path : List String) → Origin → Entries → Option Entries
  | [], origin, entries => change origin entries
  | key :: path, _, entries =>
    match entries.lookup key with
    | none => do
      let origin := if dotted then Origin.dotted else Origin.passed
      let inner ← descend dotted change path origin []
      return put key (.table origin inner) entries
    | some (.table origin inner) =>
      if origin = .inline ∨ (dotted ∧ origin = .header) then none
      else do
        let inner ← descend dotted change path origin inner
        return put key (.table origin inner) entries
    | some (.tables (last :: before)) => do
      let last ← descend dotted change path .header last
      return put key (.tables (last :: before)) entries
    | some _ => none

/-- Adds a key to a table. A key with dots can only be added to a table such keys made, and
    no key twice. -/
def add (dotted : Bool) (key : String) (node : Node) (origin : Origin) (entries : Entries) :
    Option Entries :=
  if (origin == .dotted) != dotted then none
  else if (entries.lookup key).isSome then none
  else some (put key node entries)

/-- Adds a key that may have dots, given with the names before its last one. -/
def insert (path : List String) (key : String) (node : Node) (origin : Origin)
    (entries : Entries) : Option Entries :=
  descend true (add (!path.isEmpty) key node) path origin entries

/-- Opens the table of a header under its last name. -/
def openTable (key : String) (_ : Origin) (entries : Entries) : Option Entries :=
  match entries.lookup key with
  | none => some (put key (.table .header []) entries)
  | some (.table .passed inner) => some (put key (.table .header inner) entries)
  | some _ => none

/-- Opens one more table under the last name of a header in double brackets. -/
def openInstance (key : String) (_ : Origin) (entries : Entries) : Option Entries :=
  match entries.lookup key with
  | none => some (put key (.tables [[]]) entries)
  | some (.tables instances) => some (put key (.tables ([] :: instances)) entries)
  | some _ => none

end Entries
end SerialIsp.Toml

/-! # Trees of settings

A settings file is a tree of named values. Tables come into being in more than one way, and the way
decides whether more may be put into them later.

* `Toml.Node`, `Toml.Entries`: the tree.
* `Toml.within`: go down a path and change what is found there.
* `Toml.assign`, `Toml.openTable`, `Toml.openElement`: the three ways in which a file grows the tree.
-/

namespace ClusterMember.Toml
set_option autoImplicit false

/-- How a table came into being. -/
inductive Origin
  /-- By a header of its own, or as the root or an element of a list of tables. -/
  | header
  | implied
  | dotted
deriving DecidableEq

/-- A value of the tree. Of numbers that are not whole and of dates only the presence is kept, since
no setting is one. -/
inductive Node
  | text (value : String)
  | integer (value : Int64)
  | float
  | boolean (value : Bool)
  | moment
  | array (items : List Node)
  /-- A table written as one value, which is complete with it. -/
  | inline (entries : List (String × Node))
  | table (origin : Origin) (entries : List (String × Node))
  /-- A list of tables, of which only the latest can still grow. -/
  | tables (earlier : List (List (String × Node))) (latest : List (String × Node))

abbrev Entries := List (String × Node)

/-! ## Entries -/

def lookup (key : String) : Entries → Option Node
  | [] => none
  | (name, node) :: rest => if name = key then some node else lookup key rest

/-- Put another value in the place of the one with a name. -/
def replace (key : String) (node : Node) : Entries → Entries
  | [] => []
  | (name, old) :: rest =>
    if name = key then (name, node) :: rest else (name, old) :: replace key node rest

/-- Add a value under a name that is not taken. -/
def add? (key : String) (node : Node) (entries : Entries) : Option Entries :=
  match lookup key entries with
  | none => some (entries ++ [(key, node)])
  | some _ => none

/-! ## Paths -/

/-- Change the table at the end of a path. Tables that are missing on the way are made, with the
origin `way`. A dotted path does not enter a table that has a header of its own; no path enters a
value, and one that meets a list of tables goes on in the latest. -/
def within (way : Origin) (change : Origin → Entries → Option Entries) :
    List String → Origin → Entries → Option Entries
  | [], origin, entries => change origin entries
  | key :: path, _, entries =>
    match lookup key entries with
    | none => do
      let inner ← within way change path way []
      some (entries ++ [(key, .table way inner)])
    | some (.table origin inner) =>
      if way = .dotted ∧ origin = .header then none
      else do
        let inner ← within way change path origin inner
        some (replace key (.table origin inner) entries)
    | some (.tables earlier latest) => do
      let latest ← within way change path .header latest
      some (replace key (.tables earlier latest) entries)
    | some _ => none

/-! ## Growth -/

/-- Set the value at a path below a table. A table reached by a dotted path must have come into
being by one. -/
def assign (path : List String) (node : Node) (entries : Entries) : Option Entries :=
  match path.getLast? with
  | none => none
  | some key =>
    within .dotted
      (fun origin found =>
        if path.length ≠ 1 ∧ origin ≠ .dotted then none else add? key node found)
      path.dropLast .header entries

/-- Give the table at a path its header. It may exist already if it was only implied. -/
def openTable (path : List String) (entries : Entries) : Option Entries :=
  match path.getLast? with
  | none => none
  | some key =>
    within .implied
      (fun _ found =>
        match lookup key found with
        | none => some (found ++ [(key, .table .header [])])
        | some (.table .implied inner) => some (replace key (.table .header inner) found)
        | some _ => none)
      path.dropLast .header entries

def openElement (path : List String) (entries : Entries) : Option Entries :=
  match path.getLast? with
  | none => none
  | some key =>
    within .implied
      (fun _ found =>
        match lookup key found with
        | none => some (found ++ [(key, .tables [] [])])
        | some (.tables earlier latest) =>
          some (replace key (.tables (earlier ++ [latest]) []) found)
        | some _ => none)
      path.dropLast .header entries

end ClusterMember.Toml

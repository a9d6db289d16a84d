import StructuralAdapters.Entries

/-!
# TOML documents

A TOML document is a table of named values, and tables may be written in pieces: under headers, as
dotted keys, and in braces.  The pieces of one table have to fit together.

* `Toml.Node`: a value, a table, or the tables under a repeated header;
* `Toml.alterAt`: change the table at the end of a path;
* `Toml.insert`: add a key with its value;
* `Toml.openTable`, `Toml.openElement`: what the two sorts of headers do.

## Which pieces fit

A header may define a table that so far exists only because a longer header mentioned it.  A dotted
key may add to tables that dotted keys or longer headers made, never to one with a header of its
own.  A table in braces is complete as it stands.  No key is given a value twice.
-/

namespace StructuralAdapters.Toml

/-- How a table came to be. -/
inductive TableForm where
  /-- A header defines it. -/
  | header
  /-- A longer header mentions it. -/
  | implicit
  /-- A dotted key mentions it. -/
  | dotted
  /-- It is written in braces. -/
  | closed
  deriving DecidableEq

/-- A value of a document.  Of numbers, dates and times only the kind is kept. -/
inductive Node where
  | text (s : String)
  | boolean (b : Bool)
  | integer
  | float
  | dateTime
  | array (items : List Node)
  | table (form : TableForm) (entries : List (String × Node))
  /-- The tables under a repeated header. -/
  | tables (elements : List (List (String × Node)))

/-- The content of a table. -/
abbrev Table := Entries String Node

/-- Change the table at the end of a path; tables that are missing on the way are made.  With
`dotted` the path is that of a dotted key.  Where the path leads to the tables under a repeated
header, the last of them is meant. -/
def alterAt (dotted : Bool) (change : TableForm → Table → Option Table) :
    (path : List String) → TableForm → Table → Option Table
  | [], form, t => change form t
  | key :: path, _, t =>
      match Entries.get? key t with
      | none => do
          let form := if dotted then TableForm.dotted else TableForm.implicit
          let inner ← alterAt dotted change path form []
          return Entries.put key (.table form inner) t
      | some (.table form inner) =>
          if form = .closed ∨ (dotted ∧ form = .header) then none
          else do
            let inner' ← alterAt dotted change path form inner
            return Entries.put key (.table form inner') t
      | some (.tables elements) =>
          match elements.getLast? with
          | none => none
          | some last => do
              let last' ← alterAt dotted change path .header last
              return Entries.put key (.tables (elements.dropLast ++ [last'])) t
      | some _ => none

/-- Add a key with its value to a table; `path` holds the parts of a dotted key before the last. -/
def insert (path : List String) (key : String) (value : Node) (form : TableForm) (t : Table) :
    Option Table :=
  alterAt true (fun reached t =>
    if (reached == .dotted) == path.isEmpty then none
    else match Entries.get? key t with
      | none => some (Entries.put key value t)
      | some _ => none) path form t

/-- What the header of a single table does to the document. -/
def openTable (path : List String) (key : String) (document : Table) : Option Table :=
  alterAt false (fun _ t =>
    match Entries.get? key t with
    | none => some (Entries.put key (.table .header []) t)
    | some (.table .implicit inner) => some (Entries.put key (.table .header inner) t)
    | some _ => none) path .header document

/-- What a repeated header does to the document. -/
def openElement (path : List String) (key : String) (document : Table) : Option Table :=
  alterAt false (fun _ t =>
    match Entries.get? key t with
    | none => some (Entries.put key (.tables [[]]) t)
    | some (.tables elements) => some (Entries.put key (.tables (elements ++ [[]])) t)
    | some _ => none) path .header document

end StructuralAdapters.Toml

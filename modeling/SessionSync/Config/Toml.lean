import SessionSync.Calendar
import SessionSync.Number.Decimal

/-!
# TOML values

The values of a configuration file, and the rules by which keys and headers
build tables:

* a key is written once;
* a table is opened by one header; a table that exists only because a header
  named something inside it may still be opened;
* a dotted key may add to tables that dotted keys have made, and to no others;
* a double header appends a table to a list of tables, and later headers that
  pass through the list mean its last table.
-/

set_option autoImplicit false

namespace SessionSync

/-- How a table came to be. -/
inductive TableOrigin where
  /-- By a header of its own, or by braces. -/
  | opened
  /-- By a header of something inside it. -/
  | implied
  /-- By a dotted key. -/
  | dotted
  deriving DecidableEq, Repr

/-- A TOML value. -/
inductive Toml where
  | string (value : String)
  | integer (value : Int)
  | float
  | bool (value : Bool)
  | datetime
  | array (elements : List Toml)
  | inlineTable (origin : TableOrigin) (entries : List (String × Toml))
  | table (origin : TableOrigin) (entries : List (String × Toml))
  /-- A list of tables, the last one first. -/
  | tables (last : List (String × Toml)) (before : List Toml)
  deriving Repr, Inhabited

namespace Toml

/-- The entries of a table in the order of writing. -/
abbrev Entries := List (String × Toml)

/-- The value of a key. -/
def find? (entries : Entries) (key : String) : Option Toml :=
  (entries.find? fun entry => entry.1 == key).map Prod.snd

/-- Write the value of a key, in its place or at the end. -/
def put (entries : Entries) (key : String) (value : Toml) : Entries :=
  if (find? entries key).isSome then
    entries.map fun entry => if entry.1 == key then (key, value) else entry
  else entries ++ [(key, value)]

/-- Change the table at the end of a path, making the tables on the way. -/
def alongPath (dotted : Bool) (change : TableOrigin → Entries → Option Entries) :
    List String → TableOrigin → Entries → Option Entries
  | [], origin, entries => change origin entries
  | key :: rest, _, entries =>
      match find? entries key with
      | none => do
          let origin := if dotted then TableOrigin.dotted else .implied
          return put entries key (.table origin (← alongPath dotted change rest origin []))
      | some (.table origin inner) =>
          if dotted && origin == .opened then none
          else do
            return put entries key (.table origin (← alongPath dotted change rest origin inner))
      | some (.tables last before) => do
          return put entries key (.tables (← alongPath dotted change rest .opened last) before)
      | some _ => none

/-- Write a key that must not be there yet.  The keys of a table are all dotted
or all plain. -/
def define (plain : Bool) (key : String) (value : Toml) (origin : TableOrigin)
    (entries : Entries) : Option Entries :=
  if (origin == .dotted) == plain then none
  else if (find? entries key).isSome then none
  else some (put entries key value)

/-- Write a key with a path before it into a table. -/
def assign (path : List String) (key : String) (value : Toml) (entries : Entries) :
    Option Entries :=
  alongPath true (define path.isEmpty key value) path .opened entries

/-- The braces around entries make tables that dotted keys can only add to
inside the same braces. -/
def inlineOf (pairs : List (List String × String × Toml)) : Option Toml := do
  let entries ← pairs.foldlM (fun entries (path, key, value) => assign path key value entries) []
  return .inlineTable .opened entries

/-! ## Documents -/

/-- A line of a document. -/
inductive Line where
  | assign (path : List String) (key : String) (value : Toml)
  | header (path : List String) (key : String)
  | listHeader (path : List String) (key : String)
  deriving Inhabited

/-- A document in the making: what is finished, and the table that is open. -/
structure Draft where
  root : Entries
  /-- The path, the last key and whether the table goes to a list; `none` for
  the table of the document itself. -/
  place : Option (List String × String × Bool)
  entries : Entries

namespace Draft

/-- Put the open table into its place. -/
def finish (draft : Draft) : Option Entries :=
  match draft.place with
  | none => some draft.entries
  | some (path, key, toList) =>
      let change := fun (_ : TableOrigin) (entries : Entries) =>
        if toList then
          match find? entries key with
          | none => some (put entries key (.tables draft.entries []))
          | some (.tables last before) =>
              some (put entries key (.tables draft.entries (.table .opened last :: before)))
          | some _ => none
        else some (put entries key (.table .opened draft.entries))
      alongPath false change path .opened draft.root

/-- What a header finds under its key: entries to go on with, or nothing. -/
def reopened (draft : Entries) (path : List String) (key : String) : Option Entries := do
  let rec descend : List String → Entries → Option Entries
    | [], entries =>
        match find? entries key with
        | none => some []
        | some (.table .implied inner) => some inner
        | some _ => none
    | step :: rest, entries =>
        match find? entries step with
        | none => some []
        | some (.table _ inner) => descend rest inner
        | some (.tables last _) => descend rest last
        | some _ => none
  descend path draft

/-- Whether a double header may append under its key. -/
def appendable (draft : Entries) (path : List String) (key : String) : Bool :=
  let rec descend : List String → Entries → Bool
    | [], entries =>
        match find? entries key with
        | none | some (.tables _ _) => true
        | some _ => false
    | step :: rest, entries =>
        match find? entries step with
        | none => true
        | some (.table _ inner) => descend rest inner
        | some (.tables last _) => descend rest last
        | some _ => false
  descend path draft

/-- One more line. -/
def add (draft : Draft) : Line → Option Draft
  | .assign path key value => do
      return { draft with entries := ← Toml.assign path key value draft.entries }
  | .header path key => do
      let root ← draft.finish
      let entries ← reopened root path key
      return { root, place := some (path, key, false), entries }
  | .listHeader path key => do
      let root ← draft.finish
      if appendable root path key then
        return { root, place := some (path, key, true), entries := [] }
      else failure

end Draft

/-- The table that the lines of a document make. -/
def ofLines (lines : List Line) : Option Entries := do
  let draft ← lines.foldlM Draft.add { root := [], place := none, entries := [] }
  draft.finish

end Toml

end SessionSync

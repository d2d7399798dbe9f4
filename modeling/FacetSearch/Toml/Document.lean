import FacetSearch.Toml.Basic

namespace FacetSearch.Toml

/-!
# TOML documents

A document is a list of statements.  A header opens the table that the
following assignments belong to.  No table is opened twice, no key is assigned
twice, and a dotted key never reaches into a table that has a header.
-/

/-- A statement of a document. -/
inductive Statement where
  | assign (key : List String) (value : Toml)
  | open (path : List String)
  /-- Add an entry to an array of tables. -/
  | openEntry (path : List String)
  deriving Repr, Inhabited

/-- Members of a table. -/
abbrev Members := List (String × Toml)

/-- Put a value under a name, in the place of an earlier one. -/
def setMember (name : String) (value : Toml) : Members → Members
  | [] => [(name, value)]
  | (other, present) :: rest =>
      if other = name then (name, value) :: rest
      else (other, present) :: setMember name value rest

/-- Change the last item of a list. -/
def changeLast? (change : Toml → Option Toml) : List Toml → Option (List Toml)
  | [] => none
  | [last] => (change last).map ([·])
  | first :: rest => (changeLast? change rest).map (first :: ·)

/-- Change the members of a table that is on the way of a header. -/
def throughTable? (change : Members → Option Members) : Toml → Option Toml
  | .table origin members => (change members).map (.table origin)
  | _ => none

/--
Change the members of the table at a path, the way headers reach it: through
tables of any origin, and into the last entry of an array of tables.  Tables
that are not there yet are implied.
-/
def atPath? (change : Members → Option Members) : List String → Members → Option Members
  | [], members => change members
  | name :: rest, members =>
      match Entries.lookup? name members with
      | none => do
          let inner ← atPath? change rest []
          some (setMember name (.table .implied inner) members)
      | some (.tables entries) => do
          let entries ← changeLast? (throughTable? (atPath? change rest)) entries
          some (setMember name (.tables entries) members)
      | some present => do
          let present ← throughTable? (atPath? change rest) present
          some (setMember name present members)

/-- Open the table of a name: a new one, or one that a header has implied. -/
def openTable? (name : String) (members : Members) : Option Members :=
  match Entries.lookup? name members with
  | none => some (setMember name (.table .header []) members)
  | some (.table .implied inner) => some (setMember name (.table .header inner) members)
  | some _ => none

/-- Add an entry to the array of tables of a name. -/
def openItem? (name : String) (members : Members) : Option Members :=
  let entry := Toml.table .header []
  match Entries.lookup? name members with
  | none => some (setMember name (.tables [entry]) members)
  | some (.tables entries) => some (setMember name (.tables (entries ++ [entry])) members)
  | some _ => none

/-- Assign a value to a new name. -/
def assignName? (name : String) (value : Toml) (members : Members) : Option Members :=
  match Entries.lookup? name members with
  | none => some (setMember name value members)
  | some _ => none

/--
Assign a value to a dotted key.  Every table on the way is one that dotted
keys have called for; one that a header implied may be passed through, but the
last one must not be such.
-/
def assign? (value : Toml) :
    (key : List String) → (isDotted : Bool) → Members → Option Members
  | [], _, _ => none
  | [name], isDotted, members => if isDotted then assignName? name value members else none
  | name :: rest, _, members =>
      match Entries.lookup? name members with
      | none => do
          let inner ← assign? value rest true []
          some (setMember name (.table .dotted inner) members)
      | some (.table .dotted inner) => do
          let inner ← assign? value rest true inner
          some (setMember name (.table .dotted inner) members)
      | some (.table .implied inner) => do
          let inner ← assign? value rest false inner
          some (setMember name (.table .implied inner) members)
      | some (.tables entries) => do
          let entries ← changeLast?
            (throughTable? (assign? value rest false)) entries
          some (setMember name (.tables entries) members)
      | some _ => none

/-- The members of a table in braces. -/
def inlineMembers? : List (List String × Toml) → Members → Option Members
  | [], members => some members
  | (key, value) :: rest, members => do
      inlineMembers? rest (← assign? value key true members)

/-- A table whose dotted parts are complete. -/
def inlineTable? (entries : List (List String × Toml)) : Option Toml :=
  (inlineMembers? entries []).map .inline

/-- Split a path into the way and the last name. -/
def splitPath? : List String → Option (List String × String)
  | [] => none
  | [name] => some ([], name)
  | name :: rest => (splitPath? rest).map fun (way, last) => (name :: way, last)

/-- Carry out statements on the members of the root, below the table that is open. -/
def carryOut? : (current : List String) → List Statement → Members → Option Members
  | _, [], members => some members
  | current, .assign key value :: rest, members => do
      let members ← atPath? (assign? value key true) current members
      carryOut? current rest members
  | _, .open path :: rest, members => do
      let (way, name) ← splitPath? path
      let members ← atPath? (openTable? name) way members
      carryOut? path rest members
  | _, .openEntry path :: rest, members => do
      let (way, name) ← splitPath? path
      let members ← atPath? (openItem? name) way members
      carryOut? path rest members

/-- The root table of a list of statements. -/
def ofStatements? (statements : List Statement) : Option Toml :=
  (carryOut? [] statements []).map (.table .header)

end FacetSearch.Toml

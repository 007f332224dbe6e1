/-
  CallTracing/Toml/Table.lean
  ===========================
  **Tables of a TOML document, and how a document may put them together.**

  A table remembers how it came to be: from its own header, from the header of a table inside it,
  or from a key with dots.  A table is given its content in one of these ways only, and once:
  a header may follow for a table that so far only contains tables with headers, and keys with
  dots may add to what keys with dots began.  Values, inline tables among them, are never added to.
-/

namespace CallTracing.Toml

/-- How a table came to be. -/
inductive Origin where
  /-- It has a header of its own, or is the root, or an element of an array of tables. -/
  | header
  /-- A table inside it has a header. -/
  | implied
  /-- A key with dots leads through it. -/
  | dotted
deriving DecidableEq, Repr

/-- What stands under a key. -/
inductive Item where
  | text (s : String)
  | switch (b : Bool)
  /-- A number, a date or a time. -/
  | quantity
  | array (items : List Item)
  | inlineTable (entries : List (String × Item))
  | table (origin : Origin) (entries : List (String × Item))
  /-- An array of tables, each with a header of its own. -/
  | tables (elements : List (List (String × Item)))
deriving Repr

/-- The content of a table. -/
abbrev Entries := List (String × Item)

namespace Entries

/-- The item under a key. -/
def item? (key : String) (entries : Entries) : Option Item := entries.lookup key

/-- Put an item under a key, in the place of the old one. -/
def replace (key : String) (item : Item) : Entries → Entries
  | [] => [(key, item)]
  | (name, old) :: rest =>
    if name = key then (key, item) :: rest else (name, old) :: replace key item rest

/-- Change the table at the end of a path; tables that are not there are made on the way. -/
def changeAt (made : Origin) (change : Origin × Entries → Option Entries) :
    List String → Origin × Entries → Option Entries
  | [], table => change table
  | key :: path, (_, entries) =>
    match entries.item? key with
    | none =>
      (changeAt made change path (made, [])).map fun inner =>
        entries.replace key (.table made inner)
    | some (.table origin inner) =>
      if made = .dotted ∧ origin = .header then none
      else
        (changeAt made change path (origin, inner)).map fun inner =>
          entries.replace key (.table origin inner)
    | some (.tables elements) =>
      match elements.getLast? with
      | none => none
      | some last =>
        (changeAt made change path (.header, last)).map fun inner =>
          entries.replace key (.tables (elements.dropLast ++ [inner]))
    | some _ => none

/-- Put an item under a key with dots, given as a path and a last part. -/
def insert (path : List String) (key : String) (item : Item) (table : Origin × Entries) :
    Option Entries :=
  changeAt .dotted (fun (origin, entries) =>
    if (origin = .dotted ∧ path = []) ∨ (origin ≠ .dotted ∧ path ≠ []) then none
    else if (entries.item? key).isSome then none
    else some (entries ++ [(key, item)])) path table

/-- Begin the table of a header. -/
def openTable (path : List String) (key : String) (root : Entries) : Option Entries :=
  changeAt .implied (fun (_, entries) =>
    match entries.item? key with
    | none => some (entries ++ [(key, .table .header [])])
    | some (.table .implied inner) => some (entries.replace key (.table .header inner))
    | some _ => none) path (.header, root)

/-- Begin another element of an array of tables. -/
def openElement (path : List String) (key : String) (root : Entries) : Option Entries :=
  changeAt .implied (fun (_, entries) =>
    match entries.item? key with
    | none => some (entries ++ [(key, .tables [[]])])
    | some (.tables elements) => some (entries.replace key (.tables (elements ++ [[]])))
    | some _ => none) path (.header, root)

end Entries

end CallTracing.Toml

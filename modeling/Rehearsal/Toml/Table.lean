import Rehearsal.Decimal.Shortest

/-!
Values and tables of TOML documents. A table remembers how it came to be, since that decides what may still be
added to it.
-/
namespace Rehearsal.Toml
open Decimal (Binary64)

inductive Origin where
  /-- Named by a header of its own. -/
  | header
  /-- Named only on the way to another table. -/
  | implied
  /-- Made by the dots of a key. -/
  | dotted
  /-- Written in braces, and complete. -/
  | inline
deriving DecidableEq

inductive Value where
  | string (s : String)
  | int (n : Int)
  | float (x : Binary64)
  | bool (b : Bool)
  | time
  /-- An array; one of tables grows with each header that names it. -/
  | array (ofTables : Bool) (items : List Value)
  | table (origin : Origin) (entries : List (String × Value))
deriving Inhabited

abbrev Entries := List (String × Value)

namespace Entries

def get? (t : Entries) (key : String) : Option Value := List.lookup key t

def set (key : String) (v : Value) : Entries → Entries
  | [] => [(key, v)]
  | (k, w) :: rest => if k = key then (k, v) :: rest else (k, w) :: set key v rest

end Entries

structure Table where
  origin : Origin
  entries : Entries := []

def Table.toValue (t : Table) : Value := .table t.origin t.entries

/-- Changes the table at the end of a path, and makes the tables on the way that are missing. Dots do not lead into a
table that has a header, nor anything into one in braces; of an array of tables the last one counts. -/
def Table.update? (dots : Bool) (f : Table → Option Table) : List String → Table → Option Table
  | [], t => f t
  | key :: path, t => do
    let v ← match Entries.get? t.entries key with
      | none => (update? dots f path { origin := if dots then .dotted else .implied }).map Table.toValue
      | some (.table origin entries) =>
        if origin = .inline ∨ (dots ∧ origin = .header) then none
        else (update? dots f path { origin, entries }).map Table.toValue
      | some (.array true items) =>
        match items.getLast? with
        | some (.table origin entries) =>
          (update? dots f path { origin, entries }).map fun last => .array true (items.dropLast ++ [last.toValue])
        | _ => none
      | some _ => none
    return { t with entries := Entries.set key v t.entries }

def Table.add? (path : List String) (key : String) (v : Value) (t : Table) : Option Table :=
  update? true (fun parent =>
    if !path.isEmpty ∧ parent.origin ≠ .dotted then none
    else if (Entries.get? parent.entries key).isSome then none
    else some { parent with entries := Entries.set key v parent.entries }) path t

def Table.open? (path : List String) (key : String) (t : Table) : Option Table :=
  update? false (fun parent => do
    let v ← match Entries.get? parent.entries key with
      | none => some (.table .header [])
      | some (.table .implied entries) => some (.table .header entries)
      | some _ => none
    return { parent with entries := Entries.set key v parent.entries }) path t

def Table.grow? (path : List String) (key : String) (t : Table) : Option Table :=
  update? false (fun parent => do
    let items ← match Entries.get? parent.entries key with
      | none => some []
      | some (.array true items) => some items
      | some _ => none
    let v := .array true (items ++ [.table .header []])
    return { parent with entries := Entries.set key v parent.entries }) path t

end Rehearsal.Toml

import Rehearsal.Regex.CharSet
import Rehearsal.Unicode.Script
import Rehearsal.Unicode.ScriptExtension
import Rehearsal.Unicode.Age
import Rehearsal.Unicode.Break

/-! Sets of characters by the name of a property, a category or a script. -/
namespace Rehearsal.Regex

/-- Names are compared without case, blanks, hyphens, underscores and a leading "is". -/
def looseName (name : List Char) : String :=
  let small := name.map Char.toLower
  let (rest, cut) := match small with
    | 'i' :: 's' :: r => (r, true)
    | r => (r, false)
  let kept := rest.filter fun c => c.toNat < 128 && c != ' ' && c != '_' && c != '-'
  if cut && kept == ['c'] then "isc" else .ofList kept

def named? (table : List (List String × α)) (name : String) : Option α :=
  (table.find? fun (names, _) => names.contains name).map (·.2)

def tableSet? (table : List (List String × String)) (name : String) : Option CharSet :=
  (named? table name).map fun text => .property (.ofText text)

def categorySet? (name : String) : Option CharSet :=
  if name = "any" then some .any
  else if name = "assigned" then some (.compl (.property Unicode.unassigned))
  else if name = "ascii" then some (.ranges [('\x00', '\x7f')])
  else match named? Unicode.categories name with
    | some r => some (.property r)
    | none =>
      (named? Unicode.categoryGroups name).map fun members =>
        .unions (members.filterMap fun m => (named? Unicode.categories m).map .property)

def ageSet? (name : String) : Option CharSet :=
  match Unicode.ages.findIdx? fun (names, _) => names.contains name with
  | some i => some (.unions ((Unicode.ages.take (i + 1)).map fun (_, text) => .property (.ofText text)))
  | none => none

/-- A name alone is a property, a category or a script, in this order; three short names are categories first. -/
def propertySet? (text : List Char) : Option CharSet :=
  let name := looseName text
  let property := if name = "cf" ∨ name = "sc" ∨ name = "lc" then none else tableSet? Unicode.properties name
  (property.orElse fun _ => categorySet? name).orElse fun _ => tableSet? Unicode.scripts name

def valueSet? (property value : List Char) : Option CharSet :=
  let value := looseName value
  match looseName property with
  | "gc" | "generalcategory" => categorySet? value
  | "sc" | "script" => tableSet? Unicode.scripts value
  | "scx" | "scriptextensions" => tableSet? Unicode.scriptExtensions value
  | "age" => ageSet? value
  | "gcb" | "graphemeclusterbreak" => tableSet? Unicode.graphemeBreaks value
  | "wb" | "wordbreak" => tableSet? Unicode.wordBreaks value
  | "sb" | "sentencebreak" => tableSet? Unicode.sentenceBreaks value
  | _ => none

end Rehearsal.Regex

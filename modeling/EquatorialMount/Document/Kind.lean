import EquatorialMount.Document.Form

/-!
# The kinds of nodes

A node is of the kind that its tag asks for.  Without one a scalar that has no quotes is of the kind that its text has
the form of, any other scalar is a text, and a collection is a list or a mapping.
-/

namespace EquatorialMount

inductive Kind
  | null
  | truth
  | int
  | number
  | text
  | date
  | bytes
  | list
  | map
  /-- A mapping of which only the keys count. -/
  | set
  /-- A list of mappings of one entry each. -/
  | pairs
  /-- The kind of a key that merges another mapping into its own. -/
  | merge
  /-- The kind of a key whose value stands for the whole mapping. -/
  | default
  /-- No kind that there is. -/
  | unknown
deriving Repr, DecidableEq

namespace Kind

/-- The kind of the text without its line break at the end. -/
def ofLine (s : String) : Kind :=
  let chars := s.toList
  if Form.isTruthWord s then truth
  else if Form.isNumber chars then number
  else if Form.isInt chars then int
  else if s = "<<" then merge
  else if Form.isNullWord s then null
  else if (Form.date? true chars).isSome then date
  else if s = "=" then default
  else if s = "!" || s = "&" || s = "*" then unknown
  else text

/-- The kind that a text without quotes has the form of.  One line break at the end does not count, unless there is
nothing else. -/
def ofText (s : String) : Kind :=
  let line := if s.toList.getLast? = some '\n' then String.ofList s.toList.dropLast else s
  if line = "" && s ≠ "" then text else ofLine line

/-- The start of the tags that are known. -/
def tagLead : String := "tag:yaml.org,2002:"

def tagNames : List (String × Kind) :=
  [("null", null), ("bool", truth), ("int", int), ("float", number), ("str", text), ("timestamp", date),
   ("binary", bytes), ("seq", list), ("map", map), ("set", set), ("omap", pairs), ("pairs", pairs), ("merge", merge),
   ("value", default)]

/-- The kind a tag asks for. -/
def ofTag (tag : String) : Kind :=
  match tagNames.find? fun (name, _) => tagLead ++ name = tag with
  | some (_, kind) => kind
  | none => unknown

end Kind

end EquatorialMount

import Swagger.Text.Quoted

/-! # Values described on one line
Records, lists and dictionaries as they are shown in a log: names and values side by side, strings
between quotes.

* `Record` — a described value.
* `Record.text` — its line. -/

namespace Swagger

namespace Text

/-- A described value. -/
inductive Record where
  /-- A word that stands for itself. -/
  | word (text : String)
  /-- A string. -/
  | str (text : String)
  /-- A list. -/
  | list (items : List Record)
  /-- Keys with values. -/
  | dict (entries : List (Record × Record))
  /-- A named value with named fields. -/
  | fields (name : String) (values : List (String × Record))
  /-- A named value made of another one. -/
  | wrap (name : String) (value : Record)
  /-- A word in front of another value. -/
  | labelled (label : String) (value : Record)
deriving Inhabited

namespace Record

/-- A truth value. -/
def bool (b : Bool) : Record := word (if b then "true" else "false")

/-- A natural number. -/
def nat (n : Nat) : Record := word (toString n)

/-- A list of strings. -/
def strs (l : List String) : Record := list (l.map str)

/-- A value that may be absent. -/
def option {α : Type} (describe : α → Record) : Option α → Record
  | none => word "None"
  | some a => wrap "Some" (describe a)

mutual

/-- The line that describes a value. -/
def text : Record → String
  | word t => t
  | str t => quoted t
  | list items => "[" ++ ", ".intercalate (texts items) ++ "]"
  | dict entries => "\x7b" ++ ", ".intercalate (entryTexts entries) ++ "\x7d"
  | fields name values => name ++ " \x7b " ++ ", ".intercalate (fieldTexts values) ++ " \x7d"
  | wrap name value => name ++ "(" ++ text value ++ ")"
  | labelled label value => label ++ " " ++ text value

/-- The descriptions of the items of a list. -/
def texts : List Record → List String
  | [] => []
  | x :: rest => text x :: texts rest

/-- The descriptions of keys and values. -/
def entryTexts : List (Record × Record) → List String
  | [] => []
  | (k, x) :: rest => (text k ++ ": " ++ text x) :: entryTexts rest

/-- The descriptions of named fields. -/
def fieldTexts : List (String × Record) → List String
  | [] => []
  | (name, x) :: rest => (name ++ ": " ++ text x) :: fieldTexts rest

end

end Record

end Text

end Swagger

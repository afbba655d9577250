import Swagger.Json

/-! # Members of written objects
The objects of a document leave out what says nothing: an empty string, list or dictionary, a false
flag, an absent value. Each function here gives the members that one field contributes. -/

namespace Swagger

namespace Json

namespace Members

/-- A field that is always written. -/
def always (key : String) (value : Json) : List (String × Json) := [(key, value)]

/-- A string, left out when empty. -/
def text (key value : String) : List (String × Json) :=
  if value.isEmpty then [] else [(key, .str value)]

/-- A flag, left out when false. -/
def flag (key : String) (value : Bool) : List (String × Json) :=
  if value then [(key, .bool true)] else []

/-- A value that may be absent. -/
def optional {α : Type} (key : String) (write : α → Json) : Option α → List (String × Json)
  | none => []
  | some a => [(key, write a)]

/-- A list of items already written, left out when empty. -/
def items (key : String) (values : List Json) : List (String × Json) :=
  if values.isEmpty then [] else [(key, .arr values)]

/-- A list of strings, left out when empty. -/
def strings (key : String) (values : List String) : List (String × Json) :=
  items key (values.map .str)

/-- An object of members already written, left out when empty. -/
def object (key : String) (members : List (String × Json)) : List (String × Json) :=
  if members.isEmpty then [] else [(key, .obj members)]

/-- A dictionary, left out when empty. -/
def dict {α : Type} (key : String) (write : α → Json) (d : Dict String α) : List (String × Json) :=
  object key (d.map write).entries

end Members

end Json

end Swagger

/-! # The methods of a path
Swagger 2.0 has a field for seven HTTP methods.

* `Method` — the seven, in the order in which they are written.
* `Method.name` — the name of a method, in capitals. -/

namespace Swagger

/-- A method that a path has a field for. -/
inductive Method where
  /-- Read. -/
  | get
  /-- Replace. -/
  | put
  /-- Create. -/
  | post
  /-- Remove. -/
  | delete
  /-- Ask what is allowed. -/
  | options
  /-- Read the headers alone. -/
  | head
  /-- Change in part. -/
  | patch
deriving DecidableEq, Inhabited

namespace Method

/-- All methods, in the order in which they are written. -/
def all : List Method := [.get, .put, .post, .delete, .options, .head, .patch]

/-- The name in capitals. -/
def name : Method → String
  | .get => "GET"
  | .put => "PUT"
  | .post => "POST"
  | .delete => "DELETE"
  | .options => "OPTIONS"
  | .head => "HEAD"
  | .patch => "PATCH"

/-- The key under which a path holds the operation. -/
def key : Method → String
  | .get => "get"
  | .put => "put"
  | .post => "post"
  | .delete => "delete"
  | .options => "options"
  | .head => "head"
  | .patch => "patch"

/-- The method with a name in capitals. -/
def ofName? (s : String) : Option Method := all.find? fun m => m.name == s

/-- The list of methods has all of them. -/
@[simp] theorem mem_all (m : Method) : m ∈ all := by cases m <;> decide

/-- A method is found by its name. -/
theorem ofName?_name (m : Method) : ofName? m.name = some m := by cases m <;> decide

end Method

end Swagger

import Swagger.Dict
import Swagger.Decimal.Double

/-! # JSON values
The tree that every object of a document is written as, and the type of values that a document
carries without looking into them.

* `Json` — the six kinds of value; an object keeps its members in the order they are written.
* `Json.ofDict` — a dictionary as an object.
* `Json.KeysDistinct` — no object anywhere in the value has two members with one key.
* `Json.Canonical` — moreover the members of every object stand in the order of their keys, as in
  every value that was read. -/

namespace Swagger

/-- A number: an integer, or a double. -/
inductive Number where
  /-- An integer. -/
  | int (value : Int)
  /-- A double, infinite ones and those that are no numbers included. -/
  | real (value : Double)
deriving DecidableEq, Inhabited

/-- A JSON value. -/
inductive Json where
  /-- The value `null`. -/
  | null
  /-- A truth value. -/
  | bool (value : Bool)
  /-- A number. -/
  | num (value : Number)
  /-- A string. -/
  | str (value : String)
  /-- An array. -/
  | arr (items : List Json)
  /-- An object, its members in the order they are written. -/
  | obj (members : List (String × Json))
deriving Inhabited

namespace Json

/-- An integer as a value. -/
def ofInt (i : Int) : Json := .num (.int i)

/-- A natural number as a value. -/
def ofNat (n : Nat) : Json := .num (.int n)

/-- A double as a value. -/
def ofDouble (d : Double) : Json := .num (.real d)

/-- A list of strings as an array. -/
def ofStrings (l : List String) : Json := .arr (l.map .str)

/-- A dictionary as an object. -/
def ofDict (d : Dict String Json) : Json := .obj d.entries

/-- The dictionary of an object, of which the last member for each key counts. -/
def dictOf (members : List (String × Json)) : Dict String Json := Dict.ofList members

mutual

/-- Whether two values are the same. -/
def decEq : (a b : Json) → Decidable (a = b)
  | .null, .null => isTrue rfl
  | .bool a, .bool b => if h : a = b then isTrue (by rw [h]) else isFalse (by simp [h])
  | .num a, .num b => if h : a = b then isTrue (by rw [h]) else isFalse (by simp [h])
  | .str a, .str b => if h : a = b then isTrue (by rw [h]) else isFalse (by simp [h])
  | .arr a, .arr b =>
    match decEqItems a b with
    | isTrue h => isTrue (by rw [h])
    | isFalse h => isFalse (by simp [h])
  | .obj a, .obj b =>
    match decEqMembers a b with
    | isTrue h => isTrue (by rw [h])
    | isFalse h => isFalse (by simp [h])
  | .null, .bool _ | .null, .num _ | .null, .str _ | .null, .arr _ | .null, .obj _
  | .bool _, .null | .bool _, .num _ | .bool _, .str _ | .bool _, .arr _ | .bool _, .obj _
  | .num _, .null | .num _, .bool _ | .num _, .str _ | .num _, .arr _ | .num _, .obj _
  | .str _, .null | .str _, .bool _ | .str _, .num _ | .str _, .arr _ | .str _, .obj _
  | .arr _, .null | .arr _, .bool _ | .arr _, .num _ | .arr _, .str _ | .arr _, .obj _
  | .obj _, .null | .obj _, .bool _ | .obj _, .num _ | .obj _, .str _ | .obj _, .arr _ =>
    isFalse (by simp)

/-- Whether two lists of items are the same. -/
def decEqItems : (a b : List Json) → Decidable (a = b)
  | [], [] => isTrue rfl
  | x :: a, y :: b =>
    match decEq x y, decEqItems a b with
    | isTrue h, isTrue h₁ => isTrue (by rw [h, h₁])
    | isFalse h, _ => isFalse (by simp [h])
    | _, isFalse h => isFalse (by simp [h])
  | [], _ :: _ | _ :: _, [] => isFalse (by simp)

/-- Whether two lists of members are the same. -/
def decEqMembers : (a b : List (String × Json)) → Decidable (a = b)
  | [], [] => isTrue rfl
  | (k, x) :: a, (l, y) :: b =>
    if hk : k = l then
      match decEq x y, decEqMembers a b with
      | isTrue h, isTrue h₁ => isTrue (by rw [hk, h, h₁])
      | isFalse h, _ => isFalse (by simp [h])
      | _, isFalse h => isFalse (by simp [h])
    else isFalse (by simp [hk])
  | [], _ :: _ | _ :: _, [] => isFalse (by simp)

end

instance : DecidableEq Json := decEq

mutual

/-- No object in the value has two members with one key. -/
def KeysDistinct : Json → Prop
  | .arr items => ItemsKeysDistinct items
  | .obj members => (members.map Prod.fst).Nodup ∧ MembersKeysDistinct members
  | _ => True

/-- No object in the items has two members with one key. -/
def ItemsKeysDistinct : List Json → Prop
  | [] => True
  | x :: rest => x.KeysDistinct ∧ ItemsKeysDistinct rest

/-- No object in the values of the members has two members with one key. -/
def MembersKeysDistinct : List (String × Json) → Prop
  | [] => True
  | (_, x) :: rest => x.KeysDistinct ∧ MembersKeysDistinct rest

end

mutual

/-- The members of every object in the value increase strictly by key. -/
def Canonical : Json → Prop
  | .arr items => ItemsCanonical items
  | .obj members => (Dict.mk members).Sorted ∧ MembersCanonical members
  | _ => True

/-- The members of every object in the items increase strictly by key. -/
def ItemsCanonical : List Json → Prop
  | [] => True
  | x :: rest => x.Canonical ∧ ItemsCanonical rest

/-- The members of every object in the values of the members increase strictly by key. -/
def MembersCanonical : List (String × Json) → Prop
  | [] => True
  | (_, x) :: rest => x.Canonical ∧ MembersCanonical rest

end

end Json

end Swagger

/-! # JSON pointers
A pointer names a place in a document by the keys that lead to it. A key may contain any character, so
in the pointer `~` is written `~0` and `/` is written `~1`.

* `Pointer.escape`, `Pointer.unescape` — a key as it stands in a pointer, and back.
* `Pointer.tokens` — the keys of a pointer. -/

namespace Swagger

namespace Pointer

/-- One character of a key as it stands in a pointer. -/
def escapeChar : Char → List Char
  | '~' => ['~', '0']
  | '/' => ['~', '1']
  | c => [c]

/-- A key as it stands in a pointer. -/
def escape (key : String) : String := String.ofList (key.toList.flatMap escapeChar)

/-- Replace `~` and a second character by another character, from left to right. -/
def replaceEscape (second : Char) (into : Char) : List Char → List Char
  | '~' :: c :: rest =>
    if c = second then into :: replaceEscape second into rest
    else '~' :: replaceEscape second into (c :: rest)
  | c :: rest => c :: replaceEscape second into rest
  | [] => []

/-- The key that stands in a pointer: first every `~1` becomes `/`, then every `~0` becomes `~`. -/
def unescape (token : String) : String :=
  String.ofList (replaceEscape '0' '~' (replaceEscape '1' '/' token.toList))

/-- The parts of a text between slashes. -/
def splitSlashes : List Char → List (List Char)
  | [] => [[]]
  | c :: rest =>
    match splitSlashes rest with
    | [] => [[c]]
    | part :: parts => if c = '/' then [] :: part :: parts else (c :: part) :: parts

/-- The keys of a pointer, which is empty or begins with a slash. -/
def tokens? (pointer : String) : Option (List String) :=
  match pointer.toList with
  | [] => some []
  | '/' :: rest => some ((splitSlashes rest).map fun part => unescape (String.ofList part))
  | _ => none

/-- An empty key needs no escape. -/
@[simp] theorem escape_empty : escape "" = "" := rfl

end Pointer

end Swagger

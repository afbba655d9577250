import Mathlib.Data.List.DropRight
import Swagger.WebService

/-! # Canonical names tell types apart
The pairs of colons in the path of a type become slashes, but for the last one, which becomes a point,
and arguments stay as they are. So a name is read back by putting a pair of colons in the place of each
of these characters, up to the arguments, provided that the path itself has none of them there.

* `ModelName.outer`, `ModelName.arguments` — a path without its arguments, and these.
* `ModelName.ofTypePath_eq` — only the first of the two is rewritten.
* `ModelName.typePath`, `ModelName.typePath_ofTypePath` — reading a name back.
* `ModelName.ofTypePath_tells_types` — different types have different names. -/

namespace Swagger

namespace ModelName

/-! ## Paths and their arguments -/

/-- The path of a type up to its arguments. -/
def outer (path : String) : List Char := path.toList.takeWhile (· != '<')

/-- The arguments of a type, in angle brackets. -/
def arguments (path : String) : List Char := path.toList.dropWhile (· != '<')

/-- A path is what stands before its arguments, and these. -/
theorem outer_append_arguments (path : String) : outer path ++ arguments path = path.toList :=
  List.takeWhile_append_dropWhile

/-- There is no bracket before the arguments. -/
theorem bracket_notMem_outer (path : String) : '<' ∉ outer path := fun h => by
  simpa using List.mem_takeWhile_imp h

/-- The arguments of a path begin with a bracket. -/
theorem dropWhile_arguments (path : String) :
    (arguments path).dropWhile (· != '<') = arguments path :=
  List.dropWhile_idempotent _ path.toList

/-- Nothing stands before that bracket. -/
theorem takeWhile_arguments (path : String) : (arguments path).takeWhile (· != '<') = [] := by
  have happend := List.takeWhile_append_dropWhile (p := (· != '<')) (l := arguments path)
  rwa [dropWhile_arguments, List.append_left_eq_self] at happend

/-- Where there is no bracket, every character passes the test. -/
theorem bne_bracket {cs : List Char} (h : '<' ∉ cs) : ∀ c ∈ cs, (c != '<') = true := by
  intro c hc
  rw [bne_iff_ne]
  rintro rfl
  exact h hc

/-- Whatever stands in front of the arguments of another path, they begin at the same character. -/
theorem outer_ofList {cs : List Char} (h : '<' ∉ cs) (path : String) :
    outer (String.ofList (cs ++ arguments path)) = cs := by
  rw [outer, String.toList_ofList, List.takeWhile_append_of_pos (bne_bracket h), takeWhile_arguments,
    List.append_nil]

/-- Arguments stay whatever stands before them instead. -/
theorem arguments_ofList {cs : List Char} (h : '<' ∉ cs) (path : String) :
    arguments (String.ofList (cs ++ arguments path)) = arguments path := by
  rw [arguments, String.toList_ofList, List.dropWhile_append_of_pos (bne_bracket h),
    dropWhile_arguments]

/-! ## Rewriting -/

/-- The path without arguments is cut at the last pair of colons, and the modules before it are joined
by slashes. -/
def rewritten (cs : List Char) : List Char :=
  match splitLast? cs.reverse with
  | some (name, modules) => slashed modules.reverse ++ '.' :: name.reverse
  | none => cs

/-- Only what stands before the arguments is rewritten. -/
theorem ofTypePath_eq (path : String) :
    ofTypePath path = String.ofList (rewritten (outer path) ++ arguments path) := by
  rw [ofTypePath, rewritten]
  cases hsplit : splitLast? (outer path).reverse with
  | none =>
    rw [outer] at hsplit
    simp only [hsplit, outer_append_arguments, String.ofList_toList]
  | some parts =>
    rw [outer] at hsplit
    simp only [hsplit, arguments]

/-- Nothing is lost when a path is cut. -/
theorem eq_append_of_splitLast? {cs name modules : List Char}
    (h : splitLast? cs = some (name, modules)) : cs = name ++ ':' :: ':' :: modules := by
  fun_induction splitLast? cs generalizing name with
  | case1 rest =>
    obtain ⟨rfl, rfl⟩ := Prod.mk.inj (Option.some.inj h)
    rfl
  | case2 c rest hc ih =>
    obtain ⟨parts, hparts, heq⟩ := Option.map_eq_some_iff.1 h
    obtain ⟨rfl, rfl⟩ := Prod.mk.inj heq
    exact congrArg (c :: ·) (ih hparts)
  | case3 => exact absurd h (Option.some_ne_none _).symm

/-- The only new character in a path with slashes is the slash. -/
theorem mem_slashed {cs : List Char} {c : Char} (h : c ∈ slashed cs) : c = '/' ∨ c ∈ cs := by
  fun_induction slashed cs with
  | case1 rest ih =>
    rcases List.mem_cons.1 h with h | h
    · exact Or.inl h
    · exact (ih h).imp_right fun h => List.mem_cons_of_mem _ (List.mem_cons_of_mem _ h)
  | case2 d rest hd ih =>
    rcases List.mem_cons.1 h with h | h
    · exact Or.inr (h ▸ List.mem_cons_self)
    · exact (ih h).imp_right (List.mem_cons_of_mem d)
  | case3 => exact Or.inr h

/-- The two cases of a path: it stands outside every module, or it has modules and a name. -/
theorem rewritten_cases (cs : List Char) : rewritten cs = cs ∨
    ∃ modules name, cs = modules ++ ':' :: ':' :: name ∧
      rewritten cs = slashed modules ++ '.' :: name := by
  rw [rewritten]
  cases h : splitLast? cs.reverse with
  | none => exact Or.inl rfl
  | some parts =>
    refine Or.inr ⟨parts.2.reverse, parts.1.reverse, ?_, rfl⟩
    have hcs := congrArg List.reverse (eq_append_of_splitLast? h)
    rw [List.reverse_reverse] at hcs
    rw [hcs]
    simp

/-- No bracket comes in when a path is rewritten. -/
theorem bracket_notMem_rewritten {cs : List Char} (h : '<' ∉ cs) : '<' ∉ rewritten cs := by
  rcases rewritten_cases cs with heq | ⟨modules, name, rfl, heq⟩
  · rwa [heq]
  · rw [heq]
    simp only [List.mem_append, List.mem_cons, not_or] at h ⊢
    refine ⟨fun hmem => ?_, by decide, h.2.2.2⟩
    exact (mem_slashed hmem).elim (by decide) h.1

/-! ## Reading a name back -/

/-- What a character of a name stood for. -/
def restored (c : Char) : List Char := if c = '/' ∨ c = '.' then [':', ':'] else [c]

/-- The path of the type with a canonical name. -/
def typePath (name : String) : String :=
  String.ofList ((outer name).flatMap restored ++ arguments name)

/-- A text without slashes and points. -/
def Undivided (cs : List Char) : Prop := '/' ∉ cs ∧ '.' ∉ cs

instance (cs : List Char) : Decidable (Undivided cs) := inferInstanceAs (Decidable (_ ∧ _))

/-- A text is undivided if both of its parts are. -/
theorem undivided_append_iff (xs ys : List Char) :
    Undivided (xs ++ ys) ↔ Undivided xs ∧ Undivided ys := by
  simp only [Undivided, List.mem_append, not_or]
  exact and_and_and_comm

/-- A text is undivided if its first character divides nothing and the rest is undivided. -/
theorem undivided_cons_iff (c : Char) (cs : List Char) :
    Undivided (c :: cs) ↔ (c ≠ '/' ∧ c ≠ '.') ∧ Undivided cs := by
  simp only [Undivided, List.mem_cons, not_or, ne_comm (a := c)]
  exact and_and_and_comm

/-- A character that divides nothing stood for itself. -/
theorem restored_of_ne {c : Char} (h : c ≠ '/' ∧ c ≠ '.') : restored c = [c] := if_neg (not_or.2 h)

/-- Where there is nothing to read back, all stays. -/
theorem flatMap_restored {cs : List Char} (h : Undivided cs) : cs.flatMap restored = cs := by
  induction cs with
  | nil => rfl
  | cons c cs ih =>
    obtain ⟨hc, hcs⟩ := (undivided_cons_iff c cs).1 h
    rw [List.flatMap_cons, restored_of_ne hc, ih hcs, List.singleton_append]

/-- Modules joined by slashes are read back. -/
theorem flatMap_restored_slashed {cs : List Char} (h : Undivided cs) :
    (slashed cs).flatMap restored = cs := by
  fun_induction slashed cs with
  | case1 rest ih =>
    have hrest := ((undivided_append_iff [':', ':'] rest).1 h).2
    rw [List.flatMap_cons, ih hrest]
    rfl
  | case2 c rest hc ih =>
    obtain ⟨hc', hrest⟩ := (undivided_cons_iff c rest).1 h
    rw [List.flatMap_cons, restored_of_ne hc', ih hrest, List.singleton_append]
  | case3 => rfl

/-- A rewritten path is read back. -/
theorem flatMap_restored_rewritten {cs : List Char} (h : Undivided cs) :
    (rewritten cs).flatMap restored = cs := by
  rcases rewritten_cases cs with heq | ⟨modules, name, rfl, heq⟩
  · rw [heq, flatMap_restored h]
  · obtain ⟨hmodules, hrest⟩ := (undivided_append_iff modules _).1 h
    have hname := ((undivided_append_iff [':', ':'] name).1 hrest).2
    rw [heq, List.flatMap_append, List.flatMap_cons, flatMap_restored_slashed hmodules,
      flatMap_restored hname]
    rfl

/-- **The path of a type is read back from its canonical name.** -/
theorem typePath_ofTypePath {path : String} (h : Undivided (outer path)) :
    typePath (ofTypePath path) = path := by
  have hbracket := bracket_notMem_rewritten (bracket_notMem_outer path)
  rw [typePath, ofTypePath_eq, outer_ofList hbracket, arguments_ofList hbracket,
    flatMap_restored_rewritten h, outer_append_arguments, String.ofList_toList]

end ModelName

/-! ## Types and their names -/

namespace BuiltinModel

/-- The models that need no definition of their own. -/
def all : List BuiltinModel := primitives.map .primitive ++ [.text, .any]

/-- The name of such a model is that of a type outside every module. -/
theorem ofTypePath_name {m : BuiltinModel} (h : m ∈ all) :
    ModelName.Undivided (ModelName.outer m.name) ∧ ModelName.ofTypePath m.name = m.name := by
  have hall : ∀ m ∈ all, ModelName.Undivided (ModelName.outer m.name) ∧
      ModelName.ofTypePath m.name = m.name := by decide
  exact hall m h

end BuiltinModel

namespace ModelName

/-- **Different types have different canonical names.** The path of a type is read back from its name,
if it has neither a slash nor a point before its arguments, whatever its modules and arguments and
however many colons there are. So no two such paths have one name; and the models that need no definition
have names of their own, which no other path has. -/
theorem ofTypePath_tells_types :
    (∀ path, Undivided (outer path) → typePath (ofTypePath path) = path) ∧
    (∀ path path', Undivided (outer path) → Undivided (outer path') →
      ofTypePath path = ofTypePath path' → path = path') ∧
    (BuiltinModel.all.map BuiltinModel.name).Nodup ∧
    ∀ path, Undivided (outer path) → ∀ m ∈ BuiltinModel.all,
      ofTypePath path = m.name → path = m.name := by
  have hinj : ∀ path path', Undivided (outer path) → Undivided (outer path') →
      ofTypePath path = ofTypePath path' → path = path' := fun path path' h h' heq =>
    calc path = typePath (ofTypePath path) := (typePath_ofTypePath h).symm
      _ = typePath (ofTypePath path') := by rw [heq]
      _ = path' := typePath_ofTypePath h'
  refine ⟨fun path => typePath_ofTypePath, hinj, by decide, fun path h m hm heq => ?_⟩
  obtain ⟨hundivided, hname⟩ := BuiltinModel.ofTypePath_name hm
  exact hinj path m.name h hundivided (heq.trans hname.symm)

/-- A colon more in front of the name makes another type with another name, and the path of a number
is its own name. -/
theorem ofTypePath_tells_types_colons :
    Undivided (outer "api::v1:::List<api::Pod>") ∧ Undivided (outer "api::v1::::List<api::Pod>") ∧
    typePath (ofTypePath "api::v1:::List<api::Pod>") = "api::v1:::List<api::Pod>" ∧
    ofTypePath "api::v1:::List<api::Pod>" ≠ ofTypePath "api::v1::::List<api::Pod>" ∧
    ofTypePath "u16" = (BuiltinModel.primitive "u16").name ∧
    "u16" = (BuiltinModel.primitive "u16").name := by
  have hone : Undivided (outer "api::v1:::List<api::Pod>") := by decide
  have htwo : Undivided (outer "api::v1::::List<api::Pod>") := by decide
  have hnumber : Undivided (outer "u16") := by decide
  obtain ⟨hread, hinj, -, hbuiltin⟩ := ofTypePath_tells_types
  refine ⟨hone, htwo, hread _ hone, fun heq => ?_, rfl, hbuiltin _ hnumber _ (by decide) rfl⟩
  exact absurd (hinj _ _ hone htwo heq) (by decide)

example : ofTypePath "api::v1::List<api::Pod>" = "api/v1.List<api::Pod>" := by decide

-- a slash of its own would be taken for a pair of colons
example : ofTypePath "api/v1::Pod" = ofTypePath "api::v1::Pod" := by decide

end ModelName

end Swagger

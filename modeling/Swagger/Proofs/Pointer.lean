import Mathlib.Data.List.Chain
import Swagger.Pointer

/-! # What pointers say
A pointer is split at its slashes, and each part is read as a key. A key that is written into a pointer
as it stands comes out again exactly when it is *plain*: a slash would split it, and a tilde in front
of a `0` or `1` would be taken for an escape.

* `Pointer.splitSlashes_append_slash`, `Pointer.length_splitSlashes` — splitting at slashes.
* `Pointer.unescape_eq_self_iff` — the keys that reading leaves alone.
* `Pointer.Plain` — a key that needs no escape; `Pointer.tokens?_pair_iff` — it is read back, and no
  other key is. -/

namespace Swagger

namespace Pointer

/-! ## Slashes -/

/-- There is always a part. -/
theorem splitSlashes_ne_nil (cs : List Char) : splitSlashes cs ≠ [] := by
  cases cs with
  | nil => exact List.cons_ne_nil _ _
  | cons c rest =>
    rw [splitSlashes]
    split
    · exact List.cons_ne_nil _ _
    · split <;> exact List.cons_ne_nil _ _

/-- Before a slash in front stands an empty part. -/
theorem splitSlashes_slash (rest : List Char) :
    splitSlashes ('/' :: rest) = [] :: splitSlashes rest := by
  rw [splitSlashes]
  split
  · next h => exact absurd h (splitSlashes_ne_nil rest)
  · next h => rw [if_pos rfl, h]

/-- Any other character belongs to the first part. -/
theorem splitSlashes_cons {c : Char} (hc : c ≠ '/') {rest part : List Char}
    {parts : List (List Char)} (h : splitSlashes rest = part :: parts) :
    splitSlashes (c :: rest) = (c :: part) :: parts := by
  rw [splitSlashes, h]
  exact if_neg hc

/-- A text without slashes is one part. -/
theorem splitSlashes_of_notMem {cs : List Char} (h : '/' ∉ cs) : splitSlashes cs = [cs] := by
  induction cs with
  | nil => rfl
  | cons c cs ih =>
    simp only [List.mem_cons, not_or] at h
    exact splitSlashes_cons (Ne.symm h.1) (ih h.2)

/-- What stands in front of the first slash is the first part. -/
theorem splitSlashes_append_slash {part : List Char} (h : '/' ∉ part) (rest : List Char) :
    splitSlashes (part ++ '/' :: rest) = part :: splitSlashes rest := by
  induction part with
  | nil => exact splitSlashes_slash rest
  | cons c part ih =>
    simp only [List.mem_cons, not_or] at h
    exact splitSlashes_cons (Ne.symm h.1) (ih h.2)

/-- There is one part more than there are slashes. -/
theorem length_splitSlashes (cs : List Char) : (splitSlashes cs).length = cs.count '/' + 1 := by
  induction cs with
  | nil => rfl
  | cons c cs ih =>
    by_cases hc : c = '/'
    · rw [hc, splitSlashes_slash, List.length_cons, ih, List.count_cons_self]
    · obtain ⟨part, parts, h⟩ := List.exists_cons_of_ne_nil (splitSlashes_ne_nil cs)
      rw [splitSlashes_cons hc h, List.count_cons_of_ne hc, ← ih, h]
      rfl

/-! ## Escapes -/

/-- No tilde stands in front of a character. -/
def Untilded (second : Char) (cs : List Char) : Prop := cs.IsChain fun c d => c = '~' → d ≠ second

/-- Where there is nothing to replace, nothing is. -/
theorem replaceEscape_of_untilded {second into : Char} {cs : List Char} (h : Untilded second cs) :
    replaceEscape second into cs = cs := by
  fun_induction replaceEscape second into cs with
  | case1 => exact absurd rfl ((List.isChain_cons_cons.1 h).1 rfl)
  | case2 c rest hc ih => rw [ih (List.isChain_cons_cons.1 h).2]
  | case3 c rest hc ih => rw [ih h.tail]
  | case4 => rfl

/-- Every replacement makes a text shorter. -/
theorem length_replaceEscape_le (second into : Char) (cs : List Char) :
    (replaceEscape second into cs).length ≤ cs.length := by
  fun_induction replaceEscape second into cs with
  | case1 rest ih => simp only [List.length_cons]; omega
  | case2 c rest hc ih => simp only [List.length_cons] at ih ⊢; omega
  | case3 c rest hc ih => simp only [List.length_cons]; omega
  | case4 => exact Nat.le_refl _

/-- A text that has kept its length had nothing to replace. -/
theorem untilded_of_length_replaceEscape {second : Char} (into : Char) {cs : List Char}
    (h : cs.length ≤ (replaceEscape second into cs).length) : Untilded second cs := by
  fun_induction replaceEscape second into cs with
  | case1 rest ih =>
    have hle := length_replaceEscape_le second into rest
    simp only [List.length_cons] at h
    omega
  | case2 c rest hc ih =>
    simp only [List.length_cons] at h
    exact List.isChain_cons_cons.2 ⟨fun _ => hc, ih (by simpa using h)⟩
  | case3 c rest hc ih =>
    simp only [List.length_cons] at h
    -- an escape cannot begin here: the character is no tilde, or the last one
    refine List.isChain_cons.2 ⟨fun d hd hc' => ?_, ih (by omega)⟩
    obtain ⟨rest', rfl⟩ := List.head?_eq_some_iff.1 hd
    exact (hc d rest' hc' rfl).elim
  | case4 => exact List.isChain_nil

/-- Reading a key leaves it alone exactly when no tilde in it stands in front of a `0` or `1`. -/
theorem unescape_eq_self_iff (key : String) :
    unescape key = key ↔ Untilded '0' key.toList ∧ Untilded '1' key.toList := by
  constructor
  · intro h
    have hchars : replaceEscape '0' '~' (replaceEscape '1' '/' key.toList) = key.toList := by
      simpa only [unescape, String.toList_ofList] using congrArg String.toList h
    -- neither pass makes the text shorter
    have hlen := congrArg List.length hchars
    have houter := length_replaceEscape_le '0' '~' (replaceEscape '1' '/' key.toList)
    have hone : Untilded '1' key.toList := untilded_of_length_replaceEscape '/' (by omega)
    rw [replaceEscape_of_untilded hone] at hchars
    exact ⟨untilded_of_length_replaceEscape '~' (by rw [hchars]), hone⟩
  · rintro ⟨hzero, hone⟩
    rw [unescape, replaceEscape_of_untilded hone, replaceEscape_of_untilded hzero,
      String.ofList_toList]

/-! ## Plain keys -/

/-- A key that needs no escape in a pointer. -/
structure Plain (key : String) : Prop where
  /-- There is no slash in it. -/
  no_slash : '/' ∉ key.toList
  /-- No tilde stands in front of a `0`. -/
  no_zero : Untilded '0' key.toList
  /-- No tilde stands in front of a `1`. -/
  no_one : Untilded '1' key.toList

/-- The keys of a pointer are the parts between its slashes, read back. -/
theorem tokens?_slash (s : String) :
    tokens? ("/" ++ s)
      = some ((splitSlashes s.toList).map fun part => unescape (String.ofList part)) := by
  have h : ("/" ++ s).toList = '/' :: s.toList := String.toList_append
  simp only [tokens?, h]

/-- The keys of a pointer with a plain first key. -/
theorem tokens?_cons {first : String} (h : Plain first) (s : String) :
    tokens? ("/" ++ first ++ "/" ++ s) = some (first :: (splitSlashes s.toList).map fun part =>
      unescape (String.ofList part)) := by
  have hchars : (first ++ "/" ++ s).toList = first.toList ++ '/' :: s.toList := by
    simp only [String.toList_append, List.append_assoc]
    rfl
  have happend : "/" ++ first ++ "/" ++ s = "/" ++ (first ++ "/" ++ s) := by
    simp only [String.append_assoc]
  rw [happend, tokens?_slash, hchars, splitSlashes_append_slash h.no_slash, List.map_cons,
    String.ofList_toList, (unescape_eq_self_iff first).2 ⟨h.no_zero, h.no_one⟩]

/-- **A key is read back exactly when it is plain**, if it was written into a pointer as it stands. -/
theorem tokens?_pair_iff {first : String} (h : Plain first) (key : String) :
    tokens? ("/" ++ first ++ "/" ++ key) = some [first, key] ↔ Plain key := by
  rw [tokens?_cons h, Option.some_inj, List.cons.injEq, and_iff_right rfl]
  constructor
  · intro hkey
    -- one key means one part, and so no slash
    have hlen := congrArg List.length hkey
    rw [List.length_map, length_splitSlashes, List.length_singleton] at hlen
    have hslash : '/' ∉ key.toList := List.count_eq_zero.1 (by omega)
    rw [splitSlashes_of_notMem hslash, List.map_singleton, String.ofList_toList] at hkey
    obtain ⟨hzero, hone⟩ := (unescape_eq_self_iff key).1 (List.cons.inj hkey).1
    exact ⟨hslash, hzero, hone⟩
  · rintro ⟨hslash, hzero, hone⟩
    rw [splitSlashes_of_notMem hslash, List.map_singleton, String.ofList_toList,
      (unescape_eq_self_iff key).2 ⟨hzero, hone⟩]

/-- Where there is no tilde, none stands in front of a character. -/
theorem untilded_of_notMem {cs : List Char} (h : '~' ∉ cs) (second : Char) : Untilded second cs :=
  List.Pairwise.isChain (List.pairwise_of_forall_mem_list fun _ hc _ _ hc' => absurd (hc' ▸ hc) h)

/-- A key with neither slashes nor tildes is plain. -/
theorem plain_of_notMem {key : String} (hslash : '/' ∉ key.toList) (htilde : '~' ∉ key.toList) :
    Plain key :=
  ⟨hslash, untilded_of_notMem htilde '0', untilded_of_notMem htilde '1'⟩

/-- A hyphen is no part of an escape, and neither is what has no tilde. -/
theorem untilded_append_iff (second : Char) (hsecond : '-' ≠ second) (cs : List Char)
    {suffix : List Char} (h : '~' ∉ suffix) :
    Untilded second (cs ++ '-' :: suffix) ↔ Untilded second cs := by
  have hsuffix : Untilded second ('-' :: suffix) :=
    untilded_of_notMem (by simpa using h) second
  rw [Untilded, List.isChain_append]
  refine ⟨fun h => h.1, fun h => ⟨h, hsuffix, fun _ _ d hd _ => ?_⟩⟩
  obtain rfl : '-' = d := Option.some.inj hd
  exact hsecond

/-- What is put behind a key after a hyphen does not matter, if it has neither slashes nor tildes. -/
theorem plain_append_iff (base : String) {suffix : String} (hslash : '/' ∉ suffix.toList)
    (htilde : '~' ∉ suffix.toList) : Plain (base ++ "-" ++ suffix) ↔ Plain base := by
  have hchars : (base ++ "-" ++ suffix).toList = base.toList ++ '-' :: suffix.toList := by
    simp only [String.toList_append, List.append_assoc]
    rfl
  have hzero := untilded_append_iff '0' (by decide) base.toList htilde
  have hone := untilded_append_iff '1' (by decide) base.toList htilde
  rw [← hchars] at hzero hone
  constructor
  · rintro ⟨hno, h₀, h₁⟩
    rw [hchars, List.mem_append, not_or] at hno
    exact ⟨hno.1, hzero.1 h₀, hone.1 h₁⟩
  · rintro ⟨hno, h₀, h₁⟩
    refine ⟨?_, hzero.2 h₀, hone.2 h₁⟩
    rw [hchars, List.mem_append, not_or]
    exact ⟨hno, by simpa using hslash⟩

end Pointer

end Swagger

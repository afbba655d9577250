import Swagger.Config
import Swagger.Proofs.Pointer

/-! # Escaped keys
A key is escaped in two passes, first the tildes and then the slashes, and read back by undoing them
in the opposite order. Undoing a pass finds just what the pass has put there: after the first one no
tilde is left in front of a `1`, so nothing can be mistaken for an escape of the second one.

* `Pointer.replaceChar` — one pass; `Pointer.escape_eq` — escaping is two of them.
* `Pointer.replaceEscape_replaceChar` — undoing a pass.
* `Pointer.unescape_escape`, `Pointer.isEscaped_escape` — escaped keys are read back, and all of their
  tildes begin escapes.
* `Config.definitionPointer_keys` — pointers at definitions. -/

namespace Swagger

namespace Pointer

/-! ## Passes -/

/-- Replace a character by a tilde and a second character. -/
def replaceChar (c second : Char) (cs : List Char) : List Char :=
  cs.flatMap fun d => if d = c then ['~', second] else [d]

/-- The character itself is replaced by a tilde and another one. -/
theorem replaceChar_cons_self (c second : Char) (cs : List Char) :
    replaceChar c second (c :: cs) = '~' :: second :: replaceChar c second cs := by
  simp [replaceChar]

/-- Other characters stay. -/
theorem replaceChar_cons_of_ne {c d : Char} (h : d ≠ c) (second : Char) (cs : List Char) :
    replaceChar c second (d :: cs) = d :: replaceChar c second cs := by
  simp [replaceChar, h]

/-- A key is escaped in two passes: the slashes are replaced after the tildes. -/
theorem escape_eq (key : String) :
    escape key = String.ofList (replaceChar '/' '1' (replaceChar '~' '0' key.toList)) := by
  have hchar : ∀ c, escapeChar c = replaceChar '/' '1' (if c = '~' then ['~', '0'] else [c]) := by
    intro c
    unfold escapeChar
    split
    · rfl
    · rfl
    · next htilde hslash =>
      rw [if_neg htilde, replaceChar_cons_of_ne hslash]
      rfl
  rw [escape, replaceChar, replaceChar, List.flatMap_assoc]
  exact congrArg (fun f => String.ofList (key.toList.flatMap f)) (funext hchar)

/-- After the first pass every tilde stands in front of a `0`. -/
theorem untilded_replaceChar (cs : List Char) : Untilded '1' (replaceChar '~' '0' cs) := by
  induction cs with
  | nil => exact List.isChain_nil
  | cons c cs ih =>
    by_cases hc : c = '~'
    · rw [hc, replaceChar_cons_self]
      refine List.isChain_cons_cons.2 ⟨fun _ => by decide, List.isChain_cons.2 ⟨fun d _ h => ?_, ih⟩⟩
      exact absurd h (by decide)
    · rw [replaceChar_cons_of_ne hc]
      exact List.isChain_cons.2 ⟨fun d _ h => absurd h hc, ih⟩

/-- An escape is replaced by the character that it stands for. -/
theorem replaceEscape_self (second into : Char) (cs : List Char) :
    replaceEscape second into ('~' :: second :: cs) = into :: replaceEscape second into cs := by
  rw [replaceEscape, if_pos rfl]

/-- A character is kept where it begins no escape. -/
theorem replaceEscape_cons_of_head? {second c : Char} (into : Char) {cs : List Char}
    (h : c = '~' → cs.head? ≠ some second) :
    replaceEscape second into (c :: cs) = c :: replaceEscape second into cs := by
  by_cases hc : c = '~'
  · subst hc
    cases cs with
    | nil => rfl
    | cons d rest =>
      have hd : d ≠ second := fun hd => h rfl (congrArg some hd)
      rw [replaceEscape, if_neg hd]
  · rw [replaceEscape]
    intro d rest htilde
    exact absurd htilde hc

/-- A pass puts nothing in front that was not there, but for a tilde. -/
theorem head?_replaceChar_ne {c second : Char} (hsecond : second ≠ '~') {cs : List Char}
    (h : cs.head? ≠ some second) : (replaceChar c second cs).head? ≠ some second := by
  cases cs with
  | nil => exact h
  | cons d cs =>
    by_cases hd : d = c
    · rw [hd, replaceChar_cons_self, List.head?_cons]
      exact fun heq => hsecond (Option.some.inj heq).symm
    · rw [replaceChar_cons_of_ne hd]
      exact h

/-- **Undoing a pass** gives back what there was, if the tildes themselves were replaced, or none of
them stood in front of the second character. -/
theorem replaceEscape_replaceChar {c second : Char} (hsecond : second ≠ '~') {cs : List Char}
    (h : c = '~' ∨ Untilded second cs) :
    replaceEscape second c (replaceChar c second cs) = cs := by
  induction cs with
  | nil => rfl
  | cons d cs ih =>
    have hrest := ih (h.imp_right fun h => h.tail)
    by_cases hd : d = c
    · rw [hd, replaceChar_cons_self, replaceEscape_self, hrest]
    · have hhead : d = '~' → (replaceChar c second cs).head? ≠ some second := by
        rintro rfl
        have hchain := h.resolve_left fun hc => hd hc.symm
        exact head?_replaceChar_ne hsecond fun hs => (List.isChain_cons.1 hchain).1 second hs rfl rfl
      rw [replaceChar_cons_of_ne hd, replaceEscape_cons_of_head? c hhead, hrest]

/-! ## Escaped keys -/

/-- The passes are undone in the opposite order. -/
theorem unescape_escape (key : String) : unescape (escape key) = key :=
  calc unescape (escape key)
      = String.ofList (replaceEscape '0' '~' (replaceEscape '1' '/'
          (replaceChar '/' '1' (replaceChar '~' '0' key.toList)))) := by
        rw [unescape, escape_eq, String.toList_ofList]
    _ = String.ofList (replaceEscape '0' '~' (replaceChar '~' '0' key.toList)) := by
        rw [replaceEscape_replaceChar (by decide) (Or.inr (untilded_replaceChar _))]
    _ = key := by
        rw [replaceEscape_replaceChar (by decide) (Or.inl rfl), String.ofList_toList]

example : escape "apps/v1~Pod" = "apps~1v1~0Pod" := by decide

/-- Different keys are escaped differently. -/
theorem escape_injective : Function.Injective escape :=
  Function.LeftInverse.injective unescape_escape

/-- No slash is left in an escaped key. -/
theorem slash_notMem_escape (key : String) : '/' ∉ (escape key).toList := by
  rw [escape, String.toList_ofList, List.mem_flatMap]
  rintro ⟨c, -, hc⟩
  unfold escapeChar at hc
  split at hc
  · exact absurd hc (by decide)
  · exact absurd hc (by decide)
  · next hslash => exact hslash (List.mem_singleton.1 hc).symm

/-- Every tilde of a text begins one of the two escapes. -/
def IsEscaped (token : String) : Prop :=
  ∀ before after, token.toList = before ++ '~' :: after →
    ∃ rest, after = '0' :: rest ∨ after = '1' :: rest

/-- A tilde in what stands for a character begins its escape. -/
theorem eq_of_escapeChar_eq_append {c : Char} {before after : List Char}
    (h : escapeChar c = before ++ '~' :: after) : after = ['0'] ∨ after = ['1'] := by
  have hpair : ∀ d, d ≠ '~' → ['~', d] = before ++ '~' :: after → after = [d] := by
    intro d hd heq
    cases before with
    | nil => exact (List.cons.inj heq).2.symm
    | cons b before =>
      have hmem : '~' ∈ [d] := by
        rw [(List.cons.inj heq).2]
        exact List.mem_append_right before List.mem_cons_self
      exact absurd (List.mem_singleton.1 hmem).symm hd
  unfold escapeChar at h
  split at h
  · exact Or.inl (hpair '0' (by decide) h)
  · exact Or.inr (hpair '1' (by decide) h)
  · next htilde hslash =>
    have hmem : '~' ∈ [c] := h ▸ List.mem_append_right before List.mem_cons_self
    exact absurd (List.mem_singleton.1 hmem).symm htilde

/-- An escaped key has the form of one. -/
theorem isEscaped_escape (key : String) : IsEscaped (escape key) := by
  intro before after h
  rw [escape, String.toList_ofList] at h
  generalize key.toList = chars at h
  induction chars generalizing before with
  | nil => exact absurd h.symm (List.append_ne_nil_of_right_ne_nil before (List.cons_ne_nil _ _))
  | cons c cs ih =>
    rw [List.flatMap_cons] at h
    rcases List.append_eq_append_iff.1 h with ⟨front, -, hcs⟩ | ⟨part, hc, hafter⟩
    · exact ih front hcs
    · cases part with
      | nil => exact ih [] hafter.symm
      | cons d part =>
        -- the tilde belongs to what stands for the first character
        obtain ⟨rfl, rfl⟩ := List.cons.inj hafter
        rcases eq_of_escapeChar_eq_append hc with rfl | rfl
        · exact ⟨_, Or.inl rfl⟩
        · exact ⟨_, Or.inr rfl⟩

/-- A pointer of a plain key and an escaped one has these two keys. -/
theorem tokens?_escape {first : String} (h : Plain first) (key : String) :
    tokens? ("/" ++ first ++ "/" ++ escape key) = some [first, key] := by
  rw [tokens?_cons h, splitSlashes_of_notMem (slash_notMem_escape key), List.map_singleton,
    String.ofList_toList, unescape_escape]

end Pointer

open Pointer (tokens? escape unescape IsEscaped)

/-- **Pointers at definitions.** Every key is read back from its escaped form, in which there is no
slash and no tilde but those that begin an escape, so different keys have different forms. The keys of
a pointer at a definition are `definitions` and the definition's name, and two models have one pointer
exactly when their definitions have one name. -/
theorem Config.definitionPointer_keys :
    (∀ key, '/' ∉ (escape key).toList ∧ IsEscaped (escape key) ∧ unescape (escape key) = key) ∧
    Function.Injective escape ∧
    ∀ (c : Config) (a b : String),
      (∃ pointer, c.definitionPointer a = "#" ++ pointer ∧
        tokens? pointer = some ["definitions", (c.definitionName a).1]) ∧
      (c.definitionPointer a = c.definitionPointer b ↔
        (c.definitionName a).1 = (c.definitionName b).1) := by
  refine ⟨fun key => ⟨Pointer.slash_notMem_escape key, Pointer.isEscaped_escape key,
    Pointer.unescape_escape key⟩, Pointer.escape_injective, fun c a b => ⟨?_, ?_, fun h => ?_⟩⟩
  · have hplain : Pointer.Plain "definitions" := Pointer.plain_of_notMem (by decide) (by decide)
    refine ⟨_, ?_, Pointer.tokens?_escape hplain (c.definitionName a).1⟩
    rw [definitionPointer, ← String.append_assoc]
    rfl
  · intro h
    have hescaped := (String.append_right_inj "#/definitions/").1 h
    exact Pointer.escape_injective hescaped
  · rw [definitionPointer, definitionPointer, h]

end Swagger

import Swagger.PrefixTree
import Swagger.Proofs.Dict

/-! # Prefix trees decide prefixes
A word that is added changes the answer for just those texts that it begins. So a tree of words tells
of every text whether one of the words begins it, whatever their order and however they overlap. The
tree walks bytes, and the answer is that for characters all the same.

* `PrefixTree.beginsWithBytes_insertBytes` — one word added.
* `PrefixTree.beginsWith_ofWords_iff` — the tree of a list of words.
* `PrefixTree.bytes_prefix_iff` — bytes begin as the characters do.
* `PrefixTree.beginsWith_decides` — the answers of a tree, by bytes and by characters. -/

namespace Swagger

namespace PrefixTree

/-- Nothing begins with a word of the empty tree. -/
@[simp] theorem beginsWithBytes_empty (bs : List UInt8) : beginsWithBytes bs empty = false := by
  cases bs with
  | nil => rfl
  | cons b rest => simp [beginsWithBytes, empty, ends, children, Dict.find?]

/-- Below a byte the texts begin as they do in the child, if there is one. -/
theorem beginsWithBytes_cons (b : UInt8) (bs : List UInt8) (t : PrefixTree) :
    beginsWithBytes (b :: bs) t
      = (t.ends || beginsWithBytes bs ((t.children.find? b).getD empty)) := by
  rw [beginsWithBytes]
  cases t.children.find? b <;> simp

/-- Adding a word makes the answer true for just those texts that it begins. -/
theorem beginsWithBytes_insertBytes (w bs : List UInt8) (t : PrefixTree) :
    beginsWithBytes bs (insertBytes w t) = (w.isPrefixOf bs || beginsWithBytes bs t) := by
  induction w generalizing bs t with
  | nil => cases bs <;> simp [insertBytes, beginsWithBytes, ends]
  | cons b rest ih =>
    cases bs with
    | nil => simp [insertBytes, beginsWithBytes, ends]
    | cons b' bs =>
      rw [insertBytes, beginsWithBytes_cons, beginsWithBytes_cons]
      simp only [ends, children, Dict.find?_insert]
      by_cases h : b' = b
      · -- the text goes on below the byte, where the rest of the word was added
        subst h
        rw [if_pos rfl, Option.getD_some, ih]
        simp [List.isPrefixOf, Bool.or_left_comm]
      · -- it goes on in a child that was left alone, and the word does not begin it
        rw [if_neg h]
        have hne : (b == b') = false := by simpa using fun e => h e.symm
        simp [List.isPrefixOf, hne]

/-- A text begins with a word of a tree or with the one that is put in. -/
theorem beginsWith_insert (t : PrefixTree) (w s : String) :
    (t.insert w).beginsWith s = ((bytes w).isPrefixOf (bytes s) || t.beginsWith s) :=
  beginsWithBytes_insertBytes _ _ _

/-- The tree of a list of words tells whether one of them begins a text. -/
theorem beginsWith_ofWords_iff (words : List String) (s : String) :
    (ofWords words).beginsWith s = true ↔ ∃ w ∈ words, bytes w <+: bytes s := by
  -- The tree that the words are added to has to be a variable for the induction.
  have hfold : ∀ t : PrefixTree, (words.foldl insert t).beginsWith s = true ↔
      (∃ w ∈ words, bytes w <+: bytes s) ∨ t.beginsWith s = true := by
    induction words with
    | nil => simp
    | cons w rest ih =>
      intro t
      rw [List.foldl_cons, ih, beginsWith_insert, Bool.or_eq_true, List.isPrefixOf_iff_prefix]
      simp only [List.mem_cons, exists_eq_or_imp]
      rw [or_assoc, or_left_comm]
  rw [ofWords, hfold]
  simp [beginsWith]

/-! ## Texts and their bytes -/

/-- The loop behind `ByteArray.toList` adds the bytes from the index on to those it has found. -/
theorem toList_loop (a : ByteArray) (i : Nat) (found : List UInt8) :
    ByteArray.toList.loop a i found = found.reverse ++ a.data.toList.drop i := by
  fun_induction ByteArray.toList.loop a i found with
  | case1 i found hlt ih =>
    have hlen : i < a.data.toList.length := hlt
    have hget : a.get! i = a.data.toList[i] := by
      show a.data[i]! = a.data.toList[i]
      rw [getElem!_pos a.data i hlt, Array.getElem_toList]
    rw [ih, List.drop_eq_getElem_cons hlen, hget, List.reverse_cons, List.append_assoc]
    rfl
  | case2 i found hge =>
    rw [List.drop_eq_nil_of_le (Nat.le_of_not_lt hge), List.append_nil]

/-- The bytes of a text are those of its encoding. -/
theorem bytes_eq (s : String) : bytes s = s.toByteArray.data.toList := by
  rw [bytes, ByteArray.toList, toList_loop]
  simp

/-- The bytes of a text begin those of another just when its characters do: what is left of the bytes
once whole characters are taken off is the bytes of whole characters. -/
theorem bytes_prefix_iff (w s : String) : bytes w <+: bytes s ↔ w.toList <+: s.toList := by
  rw [bytes_eq, bytes_eq]
  constructor
  · rintro ⟨rest, h⟩
    have hbytes : w.toList.utf8Encode ++ rest.toByteArray = s.toList.utf8Encode := by
      apply ByteArray.ext
      apply Array.ext'
      rw [String.utf8Encode_toList, String.utf8Encode_toList, ByteArray.toList_data_append,
        List.toList_data_toByteArray, h]
    exact List.isPrefix_of_utf8Encode_append_eq_utf8Encode _ hbytes
  · rintro ⟨rest, h⟩
    refine ⟨rest.utf8Encode.data.toList, ?_⟩
    rw [← ByteArray.toList_data_append, ← String.utf8Encode_toList, ← String.utf8Encode_toList,
      ← List.utf8Encode_append, h]

/-- A tree of words answers for a text just when one of the words begins it, which is the same by
bytes and by characters. A word that is added to any tree keeps the answers that were true and makes
those true that it begins. -/
theorem beginsWith_decides :
    (∀ (words : List String) (s : String),
      ((ofWords words).beginsWith s = true ↔ ∃ w ∈ words, bytes w <+: bytes s) ∧
      ((ofWords words).beginsWith s = true ↔ ∃ w ∈ words, w.toList <+: s.toList)) ∧
    (∀ (t : PrefixTree) (w s : String),
      ((t.insert w).beginsWith s = true ↔ t.beginsWith s = true ∨ bytes w <+: bytes s) ∧
      ((t.insert w).beginsWith s = true ↔ t.beginsWith s = true ∨ w.toList <+: s.toList)) := by
  constructor
  · intro words s
    have hwords := beginsWith_ofWords_iff words s
    refine ⟨hwords, ?_⟩
    simpa only [bytes_prefix_iff] using hwords
  · intro t w s
    have hinsert : (t.insert w).beginsWith s = true ↔
        t.beginsWith s = true ∨ bytes w <+: bytes s := by
      rw [beginsWith_insert, Bool.or_eq_true, List.isPrefixOf_iff_prefix, or_comm]
    refine ⟨hinsert, ?_⟩
    rwa [bytes_prefix_iff] at hinsert

/-- A word begins a text that goes on from it, but not one that stops short of it. -/
example : (ofWords ["/käse", "/a"]).beginsWith "/käsetheke" = true ∧
    (ofWords ["/käse", "/a"]).beginsWith "/käs" = false := by
  decide +kernel

end PrefixTree

end Swagger

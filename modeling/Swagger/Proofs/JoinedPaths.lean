import Mathlib.Data.List.DropRight
import Swagger.Path

/-! # Laws of joined paths
What a sub path adds to a root can be told from the sub path alone: nothing if it has only slashes, and
otherwise a slash and the sub path without the slashes in front. A joined path is the trimmed root with
that behind it, or a single slash where this would be nothing. Both as a root and as a sub path it
comes apart into the same two pieces, which makes joining associative.

* `Path.below` — what a sub path adds to a root; `Path.joinParts_eq` — a joined path.
* `Path.dropLastSlashes_joinParts`, `Path.below_joinParts` — a joined path as a root and as a sub path.
* `Path.join_laws` — joining is associative, and slashes at the seam do not count. -/

namespace Swagger

namespace Path

/-! ## Slashes at the ends -/

/-- Some slashes. -/
def slashes (n : Nat) : String := String.ofList (List.replicate n '/')

/-- What is left without the slashes in front does not begin with one. -/
theorem head?_dropSlashes (cs : List Char) : (dropSlashes cs).head? ≠ some '/' := by
  intro h
  have hnot := List.head?_dropWhile_not (· == '/') cs
  rw [← dropSlashes, h] at hnot
  exact absurd hnot (by decide)

/-- A text that begins with no slash stays as it is. -/
theorem dropSlashes_cons {c : Char} (h : c ≠ '/') (cs : List Char) :
    dropSlashes (c :: cs) = c :: cs :=
  List.dropWhile_cons_of_neg (by simpa using h)

/-- The first character that is left is no slash. -/
theorem ne_slash_of_dropSlashes {cs rest : List Char} {c : Char} (h : dropSlashes cs = c :: rest) :
    c ≠ '/' := by
  rintro rfl
  exact head?_dropSlashes cs (by rw [h, List.head?_cons])

/-- More slashes in front are dropped too. -/
theorem dropSlashes_replicate_append (n : Nat) (cs : List Char) :
    dropSlashes (List.replicate n '/' ++ cs) = dropSlashes cs :=
  List.dropWhile_append_of_pos fun c hc => by simpa using List.eq_of_mem_replicate hc

/-- A text is some slashes, and what is left without them. -/
theorem exists_replicate_append (cs : List Char) :
    ∃ n, cs = List.replicate n '/' ++ dropSlashes cs := by
  refine ⟨(cs.takeWhile (· == '/')).length, ?_⟩
  have hslashes : cs.takeWhile (· == '/') = List.replicate (cs.takeWhile (· == '/')).length '/' :=
    List.eq_replicate_of_mem fun c hc => by simpa using List.mem_takeWhile_imp hc
  rw [← hslashes, dropSlashes, List.takeWhile_append_dropWhile]

/-- Nothing is left where there are only slashes. -/
theorem dropSlashes_eq_nil_iff (cs : List Char) : dropSlashes cs = [] ↔ ∀ c ∈ cs, c = '/' := by
  simp [dropSlashes]

/-- Without the slashes at the end nothing is left where there are only slashes. -/
theorem dropLastSlashes_eq_nil_iff (cs : List Char) :
    dropLastSlashes cs = [] ↔ ∀ c ∈ cs, c = '/' := by
  simp [dropLastSlashes, dropSlashes]

/-- Slashes at the end of two texts together are those of the second, unless it has nothing else. -/
theorem dropLastSlashes_append (xs ys : List Char) : dropLastSlashes (xs ++ ys)
    = if dropLastSlashes ys = [] then dropLastSlashes xs else xs ++ dropLastSlashes ys := by
  simp only [dropLastSlashes, dropSlashes, List.reverse_append, List.dropWhile_append,
    List.isEmpty_iff, List.reverse_eq_nil_iff]
  split
  · rfl
  · rw [List.reverse_append, List.reverse_reverse]

/-- There is no slash at the end to be dropped again. -/
theorem dropLastSlashes_idem (cs : List Char) :
    dropLastSlashes (dropLastSlashes cs) = dropLastSlashes cs :=
  List.rdropWhile_idempotent _ cs

/-- More slashes at the end are dropped too. -/
theorem dropLastSlashes_append_replicate (cs : List Char) (n : Nat) :
    dropLastSlashes (cs ++ List.replicate n '/') = dropLastSlashes cs := by
  have hnothing : dropLastSlashes (List.replicate n '/') = [] :=
    (dropLastSlashes_eq_nil_iff _).2 fun _ => List.eq_of_mem_replicate
  rw [dropLastSlashes_append, if_pos hnothing]

/-- Whatever stands up to a character that is no slash stays. -/
theorem dropLastSlashes_append_cons {c : Char} (h : c ≠ '/') (xs cs : List Char) :
    dropLastSlashes (xs ++ c :: cs) = xs ++ c :: dropLastSlashes cs := by
  have hone : dropLastSlashes [c] = [c] := by
    rw [dropLastSlashes, List.reverse_singleton, dropSlashes_cons h, List.reverse_singleton]
  have hcons : dropLastSlashes (c :: cs) = c :: dropLastSlashes cs := by
    rw [← List.singleton_append, dropLastSlashes_append, hone]
    split
    · next hnil => rw [hnil]
    · rfl
  rw [dropLastSlashes_append, hcons, if_neg (List.cons_ne_nil _ _)]

/-- A text is what is left without the slashes at the end, and some slashes. -/
theorem exists_append_replicate (cs : List Char) :
    ∃ n, cs = dropLastSlashes cs ++ List.replicate n '/' := by
  obtain ⟨n, hn⟩ := exists_replicate_append cs.reverse
  refine ⟨n, ?_⟩
  have hreverse := congrArg List.reverse hn
  rwa [List.reverse_reverse, List.reverse_append, List.reverse_replicate] at hreverse

/-- What is left without the slashes at the end does not end in one. -/
theorem getLast?_dropLastSlashes (cs : List Char) : (dropLastSlashes cs).getLast? ≠ some '/' := by
  rw [dropLastSlashes, List.getLast?_reverse]
  exact head?_dropSlashes _

/-! ## Joined paths -/

/-- What a sub path adds to a root. -/
def below (sub : List Char) : List Char :=
  match dropSlashes sub with
  | [] => []
  | s => '/' :: s

/-- A single slash in the place of nothing. -/
def orSlash : List Char → List Char
  | [] => ['/']
  | cs => cs

/-- A sub path of slashes adds nothing. -/
theorem below_of_nil {sub : List Char} (h : dropSlashes sub = []) : below sub = [] := by
  rw [below, h]

/-- Any other sub path adds a slash, and what is left of it. -/
theorem below_of_cons {sub : List Char} {c : Char} {cs : List Char}
    (h : dropSlashes sub = c :: cs) : below sub = '/' :: c :: cs := by
  rw [below, h]

/-- A joined path is the root without slashes at the end, and what the sub path adds to it. -/
theorem joinParts_eq (root sub : List Char) :
    joinParts root sub = orSlash (dropLastSlashes root ++ below sub) := by
  cases hsub : dropSlashes sub with
  | nil => cases hroot : dropLastSlashes root <;> simp [joinParts, below, hsub, hroot, orSlash]
  | cons c cs => cases hroot : dropLastSlashes root <;> simp [joinParts, below, hsub, hroot, orSlash]

/-- A single slash in the place of nothing is dropped at the end. -/
theorem dropLastSlashes_orSlash (cs : List Char) :
    dropLastSlashes (orSlash cs) = dropLastSlashes cs := by
  cases cs <;> rfl

/-- It is dropped in front as well. -/
theorem dropSlashes_orSlash (cs : List Char) : dropSlashes (orSlash cs) = dropSlashes cs := by
  cases cs <;> rfl

/-- A joined path as a root: only what the sub path added can lose slashes at the end. -/
theorem dropLastSlashes_joinParts (root sub : List Char) :
    dropLastSlashes (joinParts root sub) = dropLastSlashes root ++ dropLastSlashes (below sub) := by
  rw [joinParts_eq, dropLastSlashes_orSlash, dropLastSlashes_append]
  split
  · next hnil => rw [hnil, List.append_nil, dropLastSlashes_idem]
  · rfl

/-- As a sub path it adds nothing. -/
theorem below_orSlash (cs : List Char) : below (orSlash cs) = below cs := by
  rw [below, below, dropSlashes_orSlash]

/-- Slashes in front of a sub path do not change what it adds. -/
theorem below_replicate_append (n : Nat) (cs : List Char) :
    below (List.replicate n '/' ++ cs) = below cs := by
  rw [below, below, dropSlashes_replicate_append]

/-- A sub path that begins with no slash gets one. -/
theorem below_cons {c : Char} (h : c ≠ '/') (cs : List Char) : below (c :: cs) = '/' :: c :: cs :=
  below_of_cons (dropSlashes_cons h cs)

/-- What a sub path adds, adds itself once more. -/
theorem below_below (sub : List Char) : below (below sub) = below sub := by
  cases hsub : dropSlashes sub with
  | nil => rw [below_of_nil hsub]; rfl
  | cons c cs =>
    rw [below_of_cons hsub]
    exact (below_replicate_append 1 (c :: cs)).trans (below_cons (ne_slash_of_dropSlashes hsub) cs)

/-- A joined path as a sub path: it adds what its two parts add, one after the other. -/
theorem below_joinParts (mid sub : List Char) :
    below (joinParts mid sub) = dropLastSlashes (below mid) ++ below sub := by
  rw [joinParts_eq, below_orSlash]
  cases hmid : dropSlashes mid with
  | nil =>
    -- a middle of slashes only leaves the sub path as it is
    have hroot : dropLastSlashes mid = [] :=
      (dropLastSlashes_eq_nil_iff mid).2 ((dropSlashes_eq_nil_iff mid).1 hmid)
    rw [hroot, below_of_nil hmid, List.nil_append, below_below]
    rfl
  | cons c cs =>
    -- otherwise the slashes in front of the middle go, and those between the two
    have hc : c ≠ '/' := ne_slash_of_dropSlashes hmid
    obtain ⟨n, hn⟩ := exists_replicate_append mid
    rw [hmid] at hn
    have hroot : dropLastSlashes mid = List.replicate n '/' ++ c :: dropLastSlashes cs := by
      rw [hn, dropLastSlashes_append_cons hc]
    have hadded : dropLastSlashes (below mid) = '/' :: c :: dropLastSlashes cs := by
      rw [below_of_cons hmid]
      exact dropLastSlashes_append_cons hc ['/'] cs
    rw [hroot, hadded, List.append_assoc, below_replicate_append, List.cons_append, below_cons hc]
    rfl

/-- Joining characters is associative. -/
theorem joinParts_assoc (root mid sub : List Char) :
    joinParts (joinParts root mid) sub = joinParts root (joinParts mid sub) :=
  calc joinParts (joinParts root mid) sub
      = orSlash (dropLastSlashes (joinParts root mid) ++ below sub) := joinParts_eq _ _
    _ = orSlash (dropLastSlashes root ++ (dropLastSlashes (below mid) ++ below sub)) := by
        rw [dropLastSlashes_joinParts, List.append_assoc]
    _ = orSlash (dropLastSlashes root ++ below (joinParts mid sub)) := by rw [below_joinParts]
    _ = joinParts root (joinParts mid sub) := (joinParts_eq _ _).symm

/-- Slashes at the seam do not count. -/
theorem joinParts_seam (root sub : List Char) (i j : Nat) :
    joinParts (root ++ List.replicate i '/') (List.replicate j '/' ++ sub) = joinParts root sub := by
  rw [joinParts_eq, joinParts_eq, dropLastSlashes_append_replicate, below_replicate_append]

/-- A joined path is not empty. -/
theorem joinParts_ne_nil (root sub : List Char) : joinParts root sub ≠ [] := by
  rw [joinParts_eq]
  cases dropLastSlashes root ++ below sub <;> exact List.cons_ne_nil _ _

/-- Where neither part is made of slashes, just one stands between what is left of the two. -/
theorem joinParts_of_exists {root sub : List Char} (hroot : ∃ c ∈ root, c ≠ '/')
    (hsub : ∃ c ∈ sub, c ≠ '/') :
    joinParts root sub = dropLastSlashes root ++ '/' :: dropSlashes sub := by
  have htrimmed : dropLastSlashes root ≠ [] := by
    rw [Ne, dropLastSlashes_eq_nil_iff]
    simpa using hroot
  have hrest : dropSlashes sub ≠ [] := by
    rw [Ne, dropSlashes_eq_nil_iff]
    simpa using hsub
  obtain ⟨c, cs, hcs⟩ := List.exists_cons_of_ne_nil hrest
  obtain ⟨d, ds, hds⟩ := List.exists_cons_of_ne_nil htrimmed
  rw [joinParts_eq, below_of_cons hcs, hds, hcs]
  rfl

/-- **Joining paths.** It does not matter which of three parts are joined first, nor how many slashes
stand at a seam, and there is always some path. If neither part is made of slashes only, the path is the
root without those at its end, one slash, and the sub path without those in front. -/
theorem join_laws :
    (∀ root mid sub : String, join (join root mid) sub = join root (join mid sub)) ∧
    (∀ (root sub : String) (i j : Nat), join (root ++ slashes i) (slashes j ++ sub) = join root sub) ∧
    (∀ root sub : String, join root sub ≠ "") ∧
    ∀ root sub : String, (∃ c ∈ root.toList, c ≠ '/') → (∃ c ∈ sub.toList, c ≠ '/') →
      ∃ (trimmed rest : String) (i j : Nat), root = trimmed ++ slashes i ∧ sub = slashes j ++ rest ∧
        trimmed.toList.getLast? ≠ some '/' ∧ rest.toList.head? ≠ some '/' ∧
        join root sub = trimmed ++ "/" ++ rest := by
  refine ⟨fun root mid sub => ?_, fun root sub i j => ?_, fun root sub h => ?_,
    fun root sub hroot hsub => ?_⟩
  · simp only [join, String.toList_ofList, joinParts_assoc]
  · simp only [join, slashes, String.toList_append, String.toList_ofList, joinParts_seam]
  · exact joinParts_ne_nil root.toList sub.toList (by simpa [join] using congrArg String.toList h)
  · obtain ⟨i, hi⟩ := exists_append_replicate root.toList
    obtain ⟨j, hj⟩ := exists_replicate_append sub.toList
    refine ⟨String.ofList (dropLastSlashes root.toList), String.ofList (dropSlashes sub.toList), i, j,
      ?_, ?_, ?_, ?_, ?_⟩
    · rw [slashes, ← String.ofList_append, ← hi, String.ofList_toList]
    · rw [slashes, ← String.ofList_append, ← hj, String.ofList_toList]
    · rw [String.toList_ofList]
      exact getLast?_dropLastSlashes _
    · rw [String.toList_ofList]
      exact head?_dropSlashes _
    · rw [join, joinParts_of_exists hroot hsub]
      refine String.toList_inj.1 ?_
      simp only [String.toList_append, String.toList_ofList, List.append_assoc]
      rfl

/-- A root and a sub path with slashes at the seam, where one is left. -/
theorem join_laws_pods : (∃ c ∈ "/api/".toList, c ≠ '/') ∧ (∃ c ∈ "//pods".toList, c ≠ '/') ∧
    ∃ (trimmed rest : String) (i j : Nat), "/api/" = trimmed ++ slashes i ∧
      "//pods" = slashes j ++ rest ∧ trimmed.toList.getLast? ≠ some '/' ∧
      rest.toList.head? ≠ some '/' ∧ join "/api/" "//pods" = trimmed ++ "/" ++ rest := by
  have hroot : ∃ c ∈ "/api/".toList, c ≠ '/' := ⟨'a', by decide, by decide⟩
  have hsub : ∃ c ∈ "//pods".toList, c ≠ '/' := ⟨'p', by decide, by decide⟩
  obtain ⟨-, -, -, htrimmed⟩ := join_laws
  exact ⟨hroot, hsub, htrimmed "/api/" "//pods" hroot hsub⟩

example : join "/api/" "//pods" = "/api/pods" := by decide

end Path

end Swagger

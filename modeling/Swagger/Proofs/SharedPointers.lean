import Swagger.Proofs.Pointer
import Swagger.Proofs.Sharing

/-! # Where pointers at shared parameters lead
A shared parameter is called by its own name, a hyphen, and a digest or a count, which need no escape
in a pointer. The name itself is written into the pointer as it stands, so the pointer leads to the
parameter exactly when the name is plain.

* `Digest.mem_alphabet`, `SharedParameters.freeName_eq` — what a shared name ends in.
* `Document.plain_sharedName_iff` — a shared name is plain when the name of its parameter is.
* `Document.shareParameters_pointers` — which pointers of a shared document are read back. -/

namespace Swagger

/-! ## Shared names -/

namespace Digest

/-- Every character of a digest belongs to the alphabet. -/
theorem character_mem_alphabet (n : Nat) : character n ∈ alphabet := by
  unfold character
  rw [List.getD_eq_getElem?_getD]
  cases h : alphabet[n]? with
  | none => decide
  | some c => exact List.mem_of_getElem? h

/-- A digest is written in its alphabet. -/
theorem mem_alphabet {text : String} {c : Char} (h : c ∈ (ofText text).toList) : c ∈ alphabet := by
  rw [ofText, String.toList_ofList, List.mem_map] at h
  obtain ⟨i, -, rfl⟩ := h
  exact character_mem_alphabet _

end Digest

namespace SharedParameters

/-- A name that is picked consists of its base, a hyphen, and a digest or a count. -/
theorem freeName_eq (base text : String) (taken : Dict String Parameter) : ∃ suffix : String,
    freeName base (Digest.ofText text) taken = base ++ "-" ++ suffix ∧
      '/' ∉ suffix.toList ∧ '~' ∉ suffix.toList := by
  rcases freeName_cases base (Digest.ofText text) taken with ⟨-, h⟩ | ⟨-, k, -, h, -⟩
  · refine ⟨Digest.ofText text, h, fun hc => ?_, fun hc => ?_⟩
    · exact absurd (Digest.mem_alphabet hc) (by decide)
    · exact absurd (Digest.mem_alphabet hc) (by decide)
  · have hdigit : ∀ c ∈ (toString (k + 1)).toList, c.isDigit = true := by
      intro c hc
      rw [Nat.toString_eq_repr, Nat.toList_repr] at hc
      exact Nat.isDigit_of_mem_toDigits (by decide) (by decide) hc
    exact ⟨toString (k + 1), h, fun hc => absurd (hdigit _ hc) (by decide),
      fun hc => absurd (hdigit _ hc) (by decide)⟩

end SharedParameters

namespace Document

/-- A shared name is plain when the name of its parameter is. -/
theorem plain_sharedName_iff {d : Document} {k : String} {q : Parameter}
    (h : d.sharedParameters.parameters.find? k = some q) :
    Pointer.Plain k ↔ Pointer.Plain q.name := by
  have hbase : Pointer.Plain q.baseName ↔ Pointer.Plain q.name := by
    unfold Parameter.baseName
    split
    · next hempty =>
      -- a parameter without a name is called `param`, and neither text needs an escape
      obtain hname : q.name = "" := by simpa using hempty
      rw [hname]
      exact iff_of_true (Pointer.plain_of_notMem (by decide) (by decide))
        (Pointer.plain_of_notMem (by decide) (by decide))
    · exact Iff.rfl
  rcases find?_parameters_foldl_add h with h | ⟨e, -, -, taken, rfl⟩
  · exact nomatch h
  · obtain ⟨suffix, heq, hslash, htilde⟩ := SharedParameters.freeName_eq q.baseName e.1 taken
    rw [heq, Pointer.plain_append_iff _ hslash htilde, hbase]

/-- **Which pointers at shared parameters are read back.** In the place of every shareable parameter
stands a pointer at a shared one with its text. The keys of the pointer are `parameters` and the shared
name exactly when the name of the shared parameter is plain. -/
theorem shareParameters_pointers {d : Document} (hd : d.parameters.isEmpty = true) :
    ∃ d', d.shareParameters = .ok d' ∧
      ∀ s p, d.parameterAt? s = some p → ¬p.StaysInline → ∃ k q,
        d'.parameterAt? s = some (.pointingAt ("#/parameters/" ++ k)) ∧
        d'.parameters.find? k = some q ∧ q.text = p.text ∧
        (Pointer.tokens? ("/parameters/" ++ k) = some ["parameters", k] ↔ Pointer.Plain q.name) := by
  refine ⟨d.shared, shareParameters_eq_shared hd, fun s p hs hp => ?_⟩
  obtain ⟨k, hk⟩ := d.exists_name hs hp
  obtain ⟨q, hq, htext⟩ := d.sharedParameters_consistent.1.parameter_of_name hk
  refine ⟨k, q, ?_, hq, htext, ?_⟩
  · rw [parameterAt?_shared, hs, Option.map_some, SharedParameters.replace_of_name _ hp hk]
  · have hfirst : Pointer.Plain "parameters" := Pointer.plain_of_notMem (by decide) (by decide)
    rw [← plain_sharedName_iff hq]
    exact Pointer.tokens?_pair_iff hfirst k

end Document

/-- The directory of which the files are listed. -/
def Parameter.directory : Parameter := { name := "dir/name", location := "query", type := "string" }

/-- How many files are listed. -/
def Parameter.limit : Parameter := { name := "limit", location := "query", type := "integer" }

/-- A document in which files are listed. -/
def Document.fileListing : Document where
  paths := Dict.ofList [("/files", { get := some {
    id := "listFiles", parameters := [.directory, .limit] } })]

/-- What is shared has the name of what it is shared for. -/
theorem Document.name_eq_of_text_fileListing {k : String} {p q : Parameter}
    (hp : p ∈ [Parameter.directory, .limit])
    (hq : fileListing.sharedParameters.parameters.find? k = some q) (htext : q.text = p.text) :
    q.name = p.name := by
  have hshareable : fileListing.shareable = [.directory, .limit] := by decide +kernel
  have hmem : q ∈ [Parameter.directory, .limit] := hshareable ▸ mem_shareable_of_shared hq
  have hne : Parameter.directory.text ≠ Parameter.limit.text := by decide +kernel
  simp only [List.mem_cons, List.not_mem_nil, or_false] at hp hmem
  rcases hp with rfl | rfl <;> rcases hmem with rfl | rfl
  · rfl
  · exact absurd htext.symm hne
  · exact absurd htext hne
  · rfl

/-- The pointer at the limit is read back, and the one at the directory is not. -/
theorem Document.shareParameters_pointers_fileListing : fileListing.parameters.isEmpty = true ∧
    ∃ d', fileListing.shareParameters = .ok d' ∧
      (∃ k, d'.parameterAt? ⟨0, some .get, 1⟩ = some (.pointingAt ("#/parameters/" ++ k)) ∧
        Pointer.tokens? ("/parameters/" ++ k) = some ["parameters", k]) ∧
      ∃ k, d'.parameterAt? ⟨0, some .get, 0⟩ = some (.pointingAt ("#/parameters/" ++ k)) ∧
        Pointer.tokens? ("/parameters/" ++ k) ≠ some ["parameters", k] := by
  have hempty : fileListing.parameters.isEmpty = true := rfl
  obtain ⟨d', hd', hpointers⟩ := shareParameters_pointers hempty
  obtain rfl : fileListing.shared = d' :=
    Except.ok.inj ((shareParameters_eq_shared hempty).symm.trans hd')
  refine ⟨hempty, _, hd', ?_, ?_⟩
  · obtain ⟨k, q, hat, hq, htext, hiff⟩ := hpointers ⟨0, some .get, 1⟩ .limit rfl
      ((Parameter.isShareable_eq_true_iff _).1 (by decide))
    rw [name_eq_of_text_fileListing (by simp) hq htext] at hiff
    exact ⟨k, hat, hiff.2 (Pointer.plain_of_notMem (by decide) (by decide))⟩
  · obtain ⟨k, q, hat, hq, htext, hiff⟩ := hpointers ⟨0, some .get, 0⟩ .directory rfl
      ((Parameter.isShareable_eq_true_iff _).1 (by decide))
    rw [name_eq_of_text_fileListing (by simp) hq htext] at hiff
    exact ⟨k, hat, fun h => absurd (hiff.1 h).no_slash (by decide)⟩

/-- A pointer at a shared parameter may have other keys: the name of the directory is split. -/
theorem Document.shareParameters_unescaped : ¬∀ (d d' : Document) (s : ParameterSite)
    (p q : Parameter) (k : String), d.parameters.isEmpty = true → d.shareParameters = .ok d' →
      d.parameterAt? s = some p → d'.parameterAt? s = some (.pointingAt ("#/parameters/" ++ k)) →
      d'.parameters.find? k = some q → q.text = p.text →
      Pointer.tokens? ("/parameters/" ++ k) = some ["parameters", k] := by
  intro hall
  have hkeys := hall fileListing fileListing.shared ⟨0, some .get, 0⟩ .directory .directory
    "dir/name-ff-wp9Py" rfl (shareParameters_eq_shared rfl) rfl (by decide +kernel)
    (by decide +kernel) rfl
  exact absurd hkeys (by decide +kernel)

end Swagger

import Swagger.Proofs.Method

/-! # Methods in capitals
Drafts of routes have their method in capitals. Whatever the text was, no small letter of ASCII is left,
and so a supported method is written just like its name.

* `Text.upperChar_cases` — where the capital of a character comes from.
* `Text.isLower_of_mem_upper` — capitals have no small letters of ASCII.
* `Method.upper_eq_name` — a supported method in capitals is the name. -/

namespace Swagger

namespace Text

/-- A code that is no character stands for the character with code zero. -/
theorem toNat_ofNat_cases (n : Nat) : (Char.ofNat n).toNat = n ∨ (Char.ofNat n).toNat = 0 := by
  unfold Char.ofNat
  by_cases h : n.isValidChar
  · rw [dif_pos h]
    exact Or.inl rfl
  · rw [dif_neg h]
    exact Or.inr rfl

/-- A code outside the small letters of ASCII stands for none of them. -/
theorem isLower_ofNat {n : Nat} (h : n < 97 ∨ 122 < n) : (Char.ofNat n).isLower = false := by
  have hcode := toNat_ofNat_cases n
  unfold Char.isLower
  rw [← Bool.not_eq_true, Bool.and_eq_true, decide_eq_true_eq, decide_eq_true_eq]
  simp only [UInt32.le_iff_toNat_le, Char.reduceVal, UInt32.reduceToNat, Char.toNat_val]
  omega

/-- No sequence that a character becomes has a small letter of ASCII. -/
theorem isLower_upperSequences :
    (upperSequences.all fun e => e.2.all fun n => !(Char.ofNat n).isLower) = true := by
  decide

/-- No range outside ASCII is moved into its small letters. -/
theorem shift_upperRanges : (upperRanges.all fun r =>
    decide (r.last < 128 ∨ r.last + r.shift < 97 ∨ 122 < r.first + r.shift)) = true := by
  decide

/-- What a character becomes in capitals: outside ASCII this is in one of the tables, or it stays. -/
theorem upperChar_cases (c : Char) :
    (c.toNat < 128 ∧ upperChar c = [c.toUpper]) ∨
    (∃ e ∈ upperSequences, e.1 = c.toNat ∧ upperChar c = e.2.map Char.ofNat) ∨
    (∃ r ∈ upperRanges, 128 ≤ c.toNat ∧ r.first ≤ c.toNat ∧ c.toNat ≤ r.last ∧
      upperChar c = [Char.ofNat ((c.toNat : Int) + r.shift).toNat]) ∨
    (128 ≤ c.toNat ∧ upperChar c = [c]) := by
  by_cases hc : c.toNat < 128
  · exact Or.inl ⟨hc, by rw [upperChar, if_pos hc]⟩
  · rw [upperChar, if_neg hc, upperWide]
    cases hsequence : upperSequences.lookup c.toNat with
    | some ns =>
      obtain ⟨before, after, hsplit, -⟩ := List.lookup_eq_some_iff.1 hsequence
      have hmem : (c.toNat, ns) ∈ upperSequences :=
        hsplit ▸ List.mem_append_right before List.mem_cons_self
      exact Or.inr (Or.inl ⟨_, hmem, rfl, rfl⟩)
    | none =>
      cases hrange : upperRanges.find? (·.contains c.toNat) with
      | some r =>
        have hcontains := List.find?_some hrange
        rw [ShiftRange.contains, Bool.and_eq_true, decide_eq_true_eq] at hcontains
        exact Or.inr (Or.inr (Or.inl ⟨r, List.mem_of_find?_eq_some hrange, by omega,
          hcontains.1.1, hcontains.1.2, rfl⟩))
      | none =>
        have hsame : [Char.ofNat c.toNat] = [c] := by rw [Char.ofNat_toNat]
        exact Or.inr (Or.inr (Or.inr ⟨by omega, hsame⟩))

/-- What a character becomes in capitals is no small letter of ASCII. -/
theorem isLower_of_mem_upperChar {c c' : Char} (h : c' ∈ upperChar c) : c'.isLower = false := by
  rcases upperChar_cases c with ⟨hc, heq⟩ | ⟨e, he, -, heq⟩ | ⟨r, hr, hwide, hfirst, hlast, heq⟩ |
      ⟨hwide, heq⟩
  · rw [heq, List.mem_singleton] at h
    rw [h]
    exact of_ascii (P := fun c => c.toUpper.isLower = false) (by decide) hc
  · rw [heq, List.mem_map] at h
    obtain ⟨n, hn, rfl⟩ := h
    have hns := List.all_eq_true.1 isLower_upperSequences e he
    have hsmall := List.all_eq_true.1 hns n hn
    simpa using hsmall
  · rw [heq, List.mem_singleton] at h
    have hshift := of_decide_eq_true (List.all_eq_true.1 shift_upperRanges r hr)
    rw [h]
    exact isLower_ofNat (by omega)
  · rw [heq, List.mem_singleton] at h
    rw [h, ← Char.ofNat_toNat c]
    exact isLower_ofNat (by omega)

/-- A text in capitals has no small letter of ASCII. -/
theorem isLower_of_mem_upper {s : String} {c : Char} (h : c ∈ (upper s).toList) :
    c.isLower = false := by
  rw [upper, String.toList_ofList, List.mem_flatMap] at h
  obtain ⟨c₀, -, hc⟩ := h
  exact isLower_of_mem_upperChar hc

/-- A character outside ASCII is its own small letter. -/
theorem toLower_of_le {c : Char} (h : 128 ≤ c.toNat) : c.toLower = c := by
  unfold Char.toLower
  split
  · next hc =>
    have hle := hc.2
    simp only [UInt32.le_iff_toNat_le, Char.reduceVal, UInt32.reduceToNat, Char.toNat_val] at hle
    omega
  · rfl

/-- A character that is no small letter of ASCII is the capital of its small letter. -/
theorem toUpper_toLower_of_isLower {c : Char} (h : c.isLower = false) : c.toLower.toUpper = c := by
  by_cases hc : c.toNat < 128
  · exact of_ascii (P := fun c => c.isLower = false → c.toLower.toUpper = c) (by decide) hc h
  · rw [toLower_of_le (by omega)]
    unfold Char.toUpper
    unfold Char.isLower at h
    -- the range that is moved is that of the small letters
    exact dif_neg (by simpa using h)

/-- A text in capitals can be told from its small letters. -/
theorem map_toUpper_toLower_upper (s : String) :
    (upper s).toLower.toList.map Char.toUpper = (upper s).toList := by
  have hlower : (upper s).toLower.toList = (upper s).toList.map Char.toLower := String.toList_map
  have hchars : ∀ c ∈ (upper s).toList, c.toLower.toUpper = c :=
    fun c hc => toUpper_toLower_of_isLower (isLower_of_mem_upper hc)
  rw [hlower, List.map_map]
  exact (List.map_congr_left hchars).trans (List.map_id _)

end Text

/-- A supported method in capitals is written like its name. -/
theorem Method.upper_eq_name {m : Method} {s : String} (h : m.Matches (Text.upper s)) :
    Text.upper s = m.name := by
  have hlower : m.name.toLower = (Text.upper s).toLower := h
  have hupper := Text.map_toUpper_toLower_upper s
  rw [← hlower] at hupper
  refine String.toList_inj.1 (hupper.symm.trans ?_)
  cases m <;> decide +kernel

end Swagger

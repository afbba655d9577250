import Swagger.Build

/-! # Methods and their slots
A method that is supported is one of the seven in some mixture of capitals and small letters. Its
letters are all ASCII, so the full mapping to capitals agrees with the plain one and finds the slot.

* `Method.Matches` — a method by a name, whatever the case of its ASCII letters.
* `Method.slot?_eq_some_iff` — the slot of a supported method. -/

namespace Swagger

namespace Text

/-- A character whose small letter is ASCII is ASCII. -/
theorem toNat_lt_of_toLower {c : Char} (h : c.toLower.toNat < 128) : c.toNat < 128 := by
  unfold Char.toLower at h
  split at h
  · next hc =>
    have hle := hc.2
    simp only [UInt32.le_iff_toNat_le, Char.reduceVal, UInt32.reduceToNat] at hle
    change c.val.toNat < 128
    omega
  · exact h

/-- What holds of the first 128 characters holds of every ASCII character. -/
theorem of_ascii {P : Char → Prop} (h : ∀ n < 128, P (Char.ofNat n)) {c : Char} (hc : c.toNat < 128) :
    P c := by
  have hp := h c.toNat hc
  rwa [Char.ofNat_toNat] at hp

/-- The capital of a small letter is that of the character itself. -/
theorem toUpper_toLower_of_lt {c : Char} (h : c.toNat < 128) : c.toLower.toUpper = c.toUpper :=
  of_ascii (P := fun c => c.toLower.toUpper = c.toUpper) (by decide) h

/-- The capitals of a text are those of its small letters, where these are ASCII. -/
theorem upper_toLower {s : String} (h : ∀ c ∈ s.toLower.toList, c.toNat < 128) :
    upper s = upper s.toLower := by
  have hlower : s.toLower.toList = s.toList.map Char.toLower := String.toList_map
  -- The full mapping differs from the plain one outside ASCII only, where no letter of `s` lies.
  have hchars : ∀ c ∈ s.toList, upperChar c = upperChar c.toLower := by
    intro c hc
    have hlt : c.toLower.toNat < 128 := h _ (hlower ▸ List.mem_map_of_mem hc)
    have hc := toNat_lt_of_toLower hlt
    rw [upperChar, upperChar, if_pos hc, if_pos hlt, toUpper_toLower_of_lt hc]
  rw [upper, upper, hlower, List.flatMap_map, List.flatMap_def, List.flatMap_def,
    List.map_congr_left hchars]

end Text

namespace Method

/-- A method has a name, whatever the case of its ASCII letters. -/
def Matches (m : Method) (method : String) : Prop := m.name.toLower = method.toLower

instance (m : Method) (method : String) : Decidable (m.Matches method) :=
  inferInstanceAs (Decidable (_ = _))

/-- Nothing is the name of two methods. -/
theorem Matches.unique {m m' : Method} {method : String} (h : m.Matches method)
    (h' : m'.Matches method) : m = m' := by
  have heq : m.name.toLower = m'.name.toLower := h.trans h'.symm
  revert heq
  cases m <;> cases m' <;> decide +kernel

/-- What is supported is the name of a method. -/
theorem isSupported_iff (method : String) :
    isSupported method = true ↔ ∃ m : Method, m.Matches method := by
  simp [isSupported, Matches]

/-- The letters of a method's name are ASCII. -/
theorem ascii_name (m : Method) : (m.name.toLower.toList.all fun c => c.toNat < 128) = true := by
  cases m <;> decide +kernel

/-- The small letters of a method with a name are ASCII. -/
theorem Matches.ascii_toLower {m : Method} {method : String} (h : m.Matches method) :
    ∀ c ∈ method.toLower.toList, c.toNat < 128 := by
  rw [← show m.name.toLower = method.toLower from h]
  simpa using m.ascii_name

/-- The name of a method finds its slot. -/
theorem slot?_of_matches {m : Method} {method : String} (h : m.Matches method) :
    slot? method = some m := by
  -- the small letters of the method are those of a name
  rw [slot?, Text.upper_toLower h.ascii_toLower, ← show m.name.toLower = method.toLower from h]
  cases m <;> decide +kernel

/-- The slot of a supported method is the one of its name. -/
theorem slot?_eq_some_iff {method : String} (h : isSupported method = true) (m : Method) :
    slot? method = some m ↔ m.Matches method := by
  obtain ⟨m', hm'⟩ := (isSupported_iff method).1 h
  rw [slot?_of_matches hm', Option.some_inj]
  constructor
  · rintro rfl
    exact hm'
  · exact fun hm => hm'.unique hm

end Method

end Swagger

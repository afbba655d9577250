import Mathlib.Data.List.Basic
import Swagger.Proofs.Capitals

/-! # Methods that only look like their names
Whether a method is supported is asked of its ASCII letters, while its slot is found by the full
mapping to capitals. The two agree wherever the method is ASCII. Four characters outside ASCII have
capitals that occur in the name of a method, and a method that is written with one of them has a slot
though it is not supported. Capitals have none of the four, so the method of a draft never does.

* `Text.isAscii` — whether a text is ASCII; `Method.lookalikes` — the four characters.
* `Method.isSupported_eq` — a method is supported if it has a slot and is ASCII.
* `Method.mem_lookalikes_of_sublist` — why there are no more than four characters.
* `Method.slots_compared` — where the two tests differ. -/

namespace Swagger

namespace Text

/-- Whether a text is ASCII. -/
def isAscii (s : String) : Bool := s.toList.all fun c => c.toNat < 128

/-- A text is ASCII if all its characters are. -/
theorem isAscii_iff (s : String) : isAscii s = true ↔ ∀ c ∈ s.toList, c.toNat < 128 := by
  simp [isAscii]

/-- A code point that is none is taken for 0. -/
theorem toNat_ofNat_of_pos {n : Nat} (h : 0 < (Char.ofNat n).toNat) : (Char.ofNat n).toNat = n := by
  rcases toNat_ofNat_cases n with hcode | hcode
  · exact hcode
  · omega

/-- The small letters of an ASCII text are those of its capitals. -/
theorem toLower_upper {s : String} (h : isAscii s = true) : (upper s).toLower = s.toLower := by
  have hascii := (isAscii_iff s).1 h
  have hupper : s.toList.flatMap upperChar = s.toList.map Char.toUpper := by
    have hchars : ∀ c ∈ s.toList, upperChar c = [c.toUpper] := fun c hc => if_pos (hascii c hc)
    rw [List.map_eq_flatMap, List.flatMap_def, List.flatMap_def, List.map_congr_left hchars]
  have hlower : ∀ t : String, t.toLower.toList = t.toList.map Char.toLower := fun _ => String.toList_map
  refine String.toList_inj.1 ?_
  rw [hlower, hlower, upper, String.toList_ofList, hupper, List.map_map]
  exact List.map_congr_left fun c hc =>
    of_ascii (P := fun c => c.toUpper.toLower = c.toLower) (by decide) (hascii c hc)

/-- What a character becomes is a part of the text in capitals. -/
theorem sublist_upper {s : String} {c : Char} (h : c ∈ s.toList) :
    (upperChar c).Sublist (upper s).toList := by
  rw [upper, String.toList_ofList, List.flatMap_def]
  exact List.sublist_flatten_of_mem (List.mem_map_of_mem h)

end Text

namespace Method

/-- A method whose small letters are those of a name is ASCII. -/
theorem Matches.isAscii {m : Method} {s : String} (h : m.Matches s) : Text.isAscii s = true := by
  have hlower : s.toLower.toList = s.toList.map Char.toLower := String.toList_map
  refine (Text.isAscii_iff s).2 fun c hc => Text.toNat_lt_of_toLower (h.ascii_toLower _ ?_)
  rw [hlower]
  exact List.mem_map_of_mem hc

/-- A method with a slot is in capitals the name. -/
theorem upper_of_slot? {m : Method} {s : String} (h : slot? s = some m) : Text.upper s = m.name := by
  have hname := List.find?_some h
  exact (eq_of_beq hname).symm

/-- A method is supported exactly if it has a slot and is ASCII. -/
theorem isSupported_eq (s : String) : isSupported s = ((slot? s).isSome && Text.isAscii s) := by
  rw [Bool.eq_iff_iff, Bool.and_eq_true, isSupported_iff]
  constructor
  · rintro ⟨m, hm⟩
    exact ⟨by rw [slot?_of_matches hm, Option.isSome_some], hm.isAscii⟩
  · rintro ⟨hslot, hascii⟩
    obtain ⟨m, hm⟩ := Option.isSome_iff_exists.1 hslot
    refine ⟨m, ?_⟩
    rw [Matches, ← upper_of_slot? hm, Text.toLower_upper hascii]

/-! ## Characters outside ASCII -/

/-- The characters outside ASCII whose capitals occur in the name of a method: the dotless `i`, the
long `s`, and two ligatures of `s` and `t`. -/
def lookalikes : List Char := ['\u0131', '\u017f', '\ufb05', '\ufb06']

/-- Of the characters that become sequences, only the two ligatures give a part of a name. -/
theorem sublist_upperSequences : (Text.upperSequences.all fun e => all.all fun m =>
    !(e.2.map Char.ofNat).isSublist m.name.toList || (m == .post && [0xfb05, 0xfb06].contains e.1))
      = true := by
  decide

/-- Of the ranges outside ASCII, only the dotless `i` and the long `s` are moved among the letters. -/
theorem letters_upperRanges : (Text.upperRanges.all fun r =>
    decide (r.last < 128 ∨ r.last + r.shift < 65 ∨ 90 < r.first + r.shift ∨
      (r.first = r.last ∧ (r.first = 0x131 ∨ r.first = 0x17f)))) = true := by
  decide

/-- Names are written in the letters of ASCII. -/
theorem letters_name (m : Method) :
    (m.name.toList.all fun c => 65 ≤ c.toNat ∧ c.toNat ≤ 90) = true := by
  cases m <;> decide

/-- A character outside ASCII whose capital is a part of a name is one of the four, and the name is
that of one of two methods. -/
theorem mem_lookalikes_of_sublist {c : Char} {m : Method} (hc : 128 ≤ c.toNat)
    (h : (Text.upperChar c).Sublist m.name.toList) :
    c ∈ lookalikes ∧ (m = .post ∨ m = .options) := by
  have hletters : ∀ d ∈ Text.upperChar c, 65 ≤ d.toNat ∧ d.toNat ≤ 90 := by
    intro d hd
    simpa using List.all_eq_true.1 m.letters_name d (h.subset hd)
  rcases Text.upperChar_cases c with ⟨hlt, -⟩ | ⟨e, he, hfirst, heq⟩ |
      ⟨r, hr, -, hfirst, hlast, heq⟩ | ⟨-, heq⟩
  · omega
  · have hrow := List.all_eq_true.1 (List.all_eq_true.1 sublist_upperSequences e he) m m.mem_all
    rw [← heq, List.isSublist_iff_sublist.2 h, Bool.not_true, Bool.false_or, Bool.and_eq_true,
      beq_iff_eq, List.contains_iff_mem] at hrow
    obtain ⟨rfl, hcode⟩ := hrow
    rw [← Char.ofNat_toNat c, ← hfirst]
    simp only [List.mem_cons, List.not_mem_nil, or_false] at hcode
    rcases hcode with hcode | hcode <;> rw [hcode] <;> decide
  · -- the capital is a letter, so the range is one of the two that are moved there
    have hrow := of_decide_eq_true (List.all_eq_true.1 letters_upperRanges r hr)
    have hletter := hletters _ (heq ▸ List.mem_singleton_self _)
    rw [Text.toNat_ofNat_of_pos (by omega)] at hletter
    have hcode : c.toNat = 0x131 ∨ c.toNat = 0x17f := by omega
    rw [← Char.ofNat_toNat c] at h ⊢
    rcases hcode with hcode | hcode <;> rw [hcode] at h ⊢ <;> revert h <;> cases m <;> decide
  · have hletter := hletters c (heq ▸ List.mem_singleton_self c)
    omega

/-- A method that has a slot without being supported is written with one of the four characters, and
is one of two methods. -/
theorem mem_lookalikes_of_slot? {m : Method} {s : String} (hslot : slot? s = some m)
    (hno : isSupported s = false) :
    (∃ c ∈ s.toList, c ∈ lookalikes) ∧ (m = .post ∨ m = .options) := by
  rw [isSupported_eq, hslot, Option.isSome_some, Bool.true_and, Text.isAscii,
    List.all_eq_false] at hno
  obtain ⟨c, hc, hwide⟩ := hno
  have hsublist := Text.sublist_upper hc
  rw [upper_of_slot? hslot] at hsublist
  obtain ⟨hmem, hm⟩ := mem_lookalikes_of_sublist (by simpa using hwide) hsublist
  exact ⟨⟨c, hc, hmem⟩, hm⟩

/-! ## Capitals -/

/-- No sequence that a character becomes has one of the four characters. -/
theorem lookalikes_upperSequences :
    (Text.upperSequences.all fun e => e.2.all fun n => !lookalikes.contains (Char.ofNat n)) = true := by
  decide

/-- No range is moved over one of the four characters. -/
theorem lookalikes_upperRanges : (Text.upperRanges.all fun r => lookalikes.all fun c =>
    decide (c.toNat < r.first + r.shift ∨ r.last + r.shift < c.toNat)) = true := by
  decide

/-- The four characters lie outside ASCII, and none of them is its own capital. -/
theorem upperChar_lookalikes : (lookalikes.all fun c =>
    decide (128 ≤ c.toNat ∧ Text.upperChar c ≠ [c])) = true := by
  decide

/-- No character becomes one of the four. -/
theorem notMem_lookalikes_of_mem_upperChar {c d : Char} (h : d ∈ Text.upperChar c) :
    d ∉ lookalikes := by
  intro hd
  obtain ⟨hwide, hchanged⟩ := of_decide_eq_true (List.all_eq_true.1 upperChar_lookalikes d hd)
  rcases Text.upperChar_cases c with ⟨hlt, heq⟩ | ⟨e, he, -, heq⟩ |
      ⟨r, hr, -, hfirst, hlast, heq⟩ | ⟨-, heq⟩
  · rw [heq, List.mem_singleton] at h
    have hupper := Text.of_ascii (P := fun c => c.toUpper.toNat < 128) (by decide) hlt
    rw [h] at hwide
    omega
  · rw [heq, List.mem_map] at h
    obtain ⟨n, hn, rfl⟩ := h
    have hrow := List.all_eq_true.1 (List.all_eq_true.1 lookalikes_upperSequences e he) n hn
    rw [List.contains_iff_mem.2 hd] at hrow
    exact absurd hrow (by decide)
  · have hrow := of_decide_eq_true
      (List.all_eq_true.1 (List.all_eq_true.1 lookalikes_upperRanges r hr) d hd)
    rw [heq, List.mem_singleton] at h
    rw [h] at hwide hrow
    have hcode := Text.toNat_ofNat_of_pos (Nat.lt_of_lt_of_le (by decide) hwide)
    omega
  · rw [heq, List.mem_singleton] at h
    exact hchanged (h ▸ heq)

/-- Capitals have a slot exactly if they are supported. -/
theorem isSupported_upper (s : String) :
    isSupported (Text.upper s) = (slot? (Text.upper s)).isSome := by
  cases hslot : slot? (Text.upper s) with
  | none => rw [isSupported_eq, hslot]; rfl
  | some m =>
    by_contra hno
    obtain ⟨⟨c, hc, hmem⟩, -⟩ := mem_lookalikes_of_slot? hslot (by simpa using hno)
    rw [Text.upper, String.toList_ofList, List.mem_flatMap] at hc
    obtain ⟨d, -, hc⟩ := hc
    exact notMem_lookalikes_of_mem_upperChar hc hmem

end Method

/-! ## Where the tests differ -/

/-- Of the routes of a path, those are kept whose method has a slot and is ASCII. -/
theorem PathGroup.mem_supported_iff {g : PathGroup} {r : Route} (h : r ∈ g.routes) :
    r ∈ g.supported ↔ (Method.slot? r.method).isSome ∧ Text.isAscii r.method := by
  rw [supported, List.mem_filter, Method.isSupported_eq, Bool.and_eq_true, and_iff_right h]

namespace Method

/-- **Where the two tests differ.** They agree on a method exactly if it has no slot or is ASCII, and of
the routes of a path those are kept whose method has a slot and is ASCII. A method that has a slot
without being supported is one of two, and it is written with one of four characters outside ASCII. The
method of a draft never is. -/
theorem slots_compared (s : String) :
    (isSupported s = (slot? s).isSome ↔ slot? s = none ∨ Text.isAscii s) ∧
    (∀ g : PathGroup, ∀ r ∈ g.routes, r.method = s →
      (r ∈ g.supported ↔ (slot? s).isSome ∧ Text.isAscii s)) ∧
    (∀ m, slot? s = some m → isSupported s = false →
      (∃ c ∈ s.toList, c ∈ lookalikes) ∧ (m = .post ∨ m = .options)) ∧
    ∀ (ws : WebService) (sub : String),
      isSupported (ws.draft s sub).route.method = (slot? (ws.draft s sub).route.method).isSome := by
  refine ⟨?_, fun g r hr hmethod => ?_, fun m => mem_lookalikes_of_slot?,
    fun ws sub => isSupported_upper s⟩
  · rw [isSupported_eq]
    cases slot? s <;> simp
  · rw [← hmethod]
    exact PathGroup.mem_supported_iff hr

/-- The dotless `i` takes the place of an `i`, and so the method has a slot but is not supported. -/
theorem slots_compared_options : slot? "OPT\u0131ONS" = some .options ∧
    isSupported "OPT\u0131ONS" = false ∧ (∃ c ∈ "OPT\u0131ONS".toList, c ∈ lookalikes) ∧
    (Method.options = .post ∨ Method.options = .options) := by
  have hslot : slot? "OPT\u0131ONS" = some .options := by decide
  have hno : isSupported "OPT\u0131ONS" = false := by rw [isSupported_eq]; decide
  obtain ⟨-, -, hdiffer, -⟩ := slots_compared "OPT\u0131ONS"
  exact ⟨hslot, hno, hdiffer .options hslot hno⟩

/-- A method may have a slot without being supported: this one ends in a long `s` and a `t`. -/
theorem isSupported_ne_slot? : ¬∀ s, isSupported s = (slot? s).isSome := by
  intro hall
  have hpost := hall "po\u017ft"
  rw [isSupported_eq] at hpost
  exact absurd hpost (by decide)

end Method

end Swagger

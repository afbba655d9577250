import Mathlib.Order.Bounds.Defs
import Swagger.Proofs.SharedPointers

/-! # The search for a free name
The hashed name is looked up first, and then the names with the counts from one on, until one of them is
free. The search has no bound of its own, and its count is a signed number of 32 bits, which has a last
value. But counted names differ, so that of one count more than there are names one is free, and the
search ends there at the latest.

* `SharedParameters.Search`, `Search.next?` — where a search stands, and what it looks up next.
* `Search.Ends` — a whole search, with the number of its probes.
* `Search.ends_of_taken` — a search goes through the counts that are taken.
* `SharedParameters.freeName_search` — every search ends, with the name that is picked. -/

namespace Swagger

namespace SharedParameters

/-! ## Searches -/

/-- Where a search for a free name stands. -/
structure Search where
  /-- The name that is looked up. -/
  name : String
  /-- The last count that was used, zero if there is none. -/
  attempt : Int32

namespace Search

/-- A search begins with the hashed name. -/
def start (base hash : String) : Search := ⟨base ++ "-" ++ hash, 0⟩

/-- What is looked up after a name that is taken: the name with the next count, if there is one. -/
def next? (base : String) (s : Search) : Option Search :=
  if s.attempt < Int32.maxValue then
    some ⟨base ++ "-" ++ toString (s.attempt + 1), s.attempt + 1⟩
  else none

/-- A search ends after some probes with a name. Behind the last count there is no way past a taken name. -/
inductive Ends (base : String) (taken : Dict String Parameter) : Search → Nat → String → Prop where
  /-- A free name is the result. -/
  | free {s : Search} (hfree : taken.contains s.name = false) : Ends base taken s 1 s.name
  /-- A taken name is passed over. -/
  | taken {s s' : Search} {probes : Nat} {name : String} (htaken : taken.contains s.name = true)
      (hnext : s.next? base = some s') (hends : Ends base taken s' probes name) :
      Ends base taken s (probes + 1) name

variable {base : String} {taken : Dict String Parameter}

/-- A search can end in one way only. -/
theorem Ends.unique {s : Search} {probes probes' : Nat} {name name' : String}
    (h : Ends base taken s probes name) (h' : Ends base taken s probes' name') :
    probes' = probes ∧ name' = name := by
  induction h generalizing probes' with
  | free hfree =>
    cases h' with
    | free => exact ⟨rfl, rfl⟩
    | taken htaken => exact absurd (hfree.symm.trans htaken) Bool.false_ne_true
  | taken htaken hnext _ ih =>
    cases h' with
    | free hfree => exact absurd (hfree.symm.trans htaken) Bool.false_ne_true
    | taken _ hnext' hends' =>
      obtain rfl := Option.some.inj (hnext.symm.trans hnext')
      obtain ⟨rfl, rfl⟩ := ih hends'
      exact ⟨rfl, rfl⟩

/-- The search that has come to a count. -/
def atCount (base : String) (k : Nat) : Search := ⟨counted base k, Int32.ofNat k⟩

/-- Below the last value the next count follows, and its digits are those of the number. -/
theorem next?_of_lt (name : String) {k : Nat} (h : k < 2147483647) :
    next? base ⟨name, Int32.ofNat k⟩ = some (atCount base (k + 1)) := by
  have hlt : Int32.ofNat k < Int32.maxValue := by
    have hmax : Int32.maxValue.toInt = 2147483647 := by decide
    rw [Int32.lt_iff_toInt_lt, Int32.toInt_ofNat_of_lt (by omega)]
    omega
  have hdigits : toString (Int32.ofNat (k + 1)) = toString (k + 1) := by
    change toString (Int32.ofNat (k + 1)).toInt = _
    rw [Int32.toInt_ofNat_of_lt (by omega)]
    rfl
  have hsucc : Int32.ofNat k + 1 = Int32.ofNat (k + 1) := (Int32.ofNat_add k 1).symm
  rw [next?, if_pos hlt, hsucc, hdigits]
  rfl

/-- A search goes through the counts that are taken, one probe for each, up to the first that is free. -/
theorem ends_of_taken {k n : Nat} {name : String} (hkn : k < n)
    (hname : taken.contains name = true)
    (htaken : ∀ j, k < j → j < n → taken.contains (counted base j) = true)
    (hfree : taken.contains (counted base n) = false) (hn : n ≤ 2147483647) :
    Ends base taken ⟨name, Int32.ofNat k⟩ (n - k + 1) (counted base n) := by
  -- by how many counts are left
  induction hleft : n - k generalizing k name with
  | zero => omega
  | succ m ih =>
    have hnext : next? base ⟨name, Int32.ofNat k⟩ = some (atCount base (k + 1)) :=
      next?_of_lt name (by omega)
    rcases Nat.eq_or_lt_of_le hkn with rfl | hlt
    · obtain rfl : m = 0 := by omega
      exact .taken hname hnext (.free (s := atCount base (k + 1)) hfree)
    · have hrest : ∀ j, k + 1 < j → j < n → taken.contains (counted base j) = true :=
        fun j hj => htaken j (Nat.lt_of_succ_lt hj)
      exact .taken hname hnext (ih hlt (htaken (k + 1) (Nat.lt_succ_self k) hlt) hrest (by omega))

end Search

/-! ## The name that is picked -/

/-- The counts whose names are free. -/
def freeCounts (base : String) (taken : Dict String Parameter) : Set Nat :=
  {k | 1 ≤ k ∧ taken.contains (counted base k) = false}

/-- The hashed name is picked where it is free. -/
theorem freeName_of_free {base hash : String} {taken : Dict String Parameter}
    (h : taken.contains (base ++ "-" ++ hash) = false) :
    freeName base hash taken = base ++ "-" ++ hash := by
  rw [freeName, h]
  rfl

/-- Where the hashed name is taken, the one with the least free count is picked. -/
theorem exists_isLeast_freeName {base hash : String} {taken : Dict String Parameter}
    (h : taken.contains (base ++ "-" ++ hash) = true) : ∃ k ≤ taken.entries.length + 1,
      IsLeast (freeCounts base taken) k ∧ freeName base hash taken = counted base k := by
  rcases freeName_cases base hash taken with ⟨hfree, -⟩ | ⟨-, k, hk, heq, hfree, hleast⟩
  · exact absurd (hfree.symm.trans h) Bool.false_ne_true
  · refine ⟨k + 1, Nat.succ_le_succ hk, ⟨⟨Nat.succ_pos k, hfree⟩, ?_⟩, heq⟩
    rintro (_ | j) ⟨hpos, hj⟩
    · exact absurd hpos (Nat.not_succ_le_zero 0)
    · by_contra hlt
      exact absurd (hj.symm.trans (hleast j (by omega))) Bool.false_ne_true

/-- A search ends with the name that is picked. -/
theorem exists_ends (base hash : String) {taken : Dict String Parameter}
    (h : taken.entries.length < 2147483647) : ∃ probes ≤ taken.entries.length + 2,
      Search.Ends base taken (.start base hash) probes (freeName base hash taken) := by
  cases hhashed : taken.contains (base ++ "-" ++ hash) with
  | false =>
    rw [freeName_of_free hhashed]
    exact ⟨1, by omega, .free (s := .start base hash) hhashed⟩
  | true =>
    obtain ⟨k, hk, ⟨⟨hpos, hfree⟩, hleast⟩, heq⟩ := exists_isLeast_freeName hhashed
    have htaken : ∀ j, 0 < j → j < k → taken.contains (counted base j) = true := by
      intro j hj hjk
      by_contra hnot
      exact absurd (hleast ⟨hj, Bool.eq_false_iff.2 hnot⟩) (Nat.not_le_of_lt hjk)
    rw [heq]
    exact ⟨k - 0 + 1, by omega, Search.ends_of_taken hpos hhashed htaken hfree (by omega)⟩

/-- **The search for a free name ends.** If fewer names than `2 ^ 31 - 1` are taken, it ends in just one
way, after no more probes than there are names and two more, and so without a count that has no next one.
The result is the name that is picked, and it is free: the hashed one if that is free, and otherwise the
one with the least free count. -/
theorem freeName_search (base hash : String) (taken : Dict String Parameter)
    (h : taken.entries.length < 2147483647) :
    (∃ probes ≤ taken.entries.length + 2, ∀ probes' name,
      Search.Ends base taken (.start base hash) probes' name ↔
        probes' = probes ∧ name = freeName base hash taken) ∧
    taken.contains (freeName base hash taken) = false ∧
    (taken.contains (base ++ "-" ++ hash) = false →
      freeName base hash taken = base ++ "-" ++ hash) ∧
    (taken.contains (base ++ "-" ++ hash) = true →
      ∃ k, IsLeast (freeCounts base taken) k ∧ freeName base hash taken = counted base k) := by
  obtain ⟨probes, hprobes, hends⟩ := exists_ends base hash h
  refine ⟨⟨probes, hprobes, fun probes' name => ⟨hends.unique, ?_⟩⟩, freeName_free base hash taken,
    freeName_of_free, fun hhashed => ?_⟩
  · rintro ⟨rfl, rfl⟩
    exact hends
  · obtain ⟨k, -, hk⟩ := exists_isLeast_freeName hhashed
    exact ⟨k, hk⟩

/-- The limit is shared twice, under counted names. -/
def takenLimits : Dict String Parameter :=
  Dict.ofList [("limit-1", Parameter.limit), ("limit-2", { Parameter.limit with required := true })]

/-- A hashed name that is free is picked, and one that looks like a counted name comes up twice before
the search gets past it. -/
theorem freeName_search_limits : takenLimits.entries.length < 2147483647 ∧
    takenLimits.contains "limit-2" = true ∧ takenLimits.contains "limit-4" = false ∧
    (∃ probes ≤ 4, Search.Ends "limit" takenLimits (.start "limit" "2") probes "limit-3") ∧
    takenLimits.contains "limit-3" = false ∧
    (∃ k, IsLeast (freeCounts "limit" takenLimits) k ∧ "limit-3" = counted "limit" k) ∧
    freeName "limit" "4" takenLimits = "limit-4" := by
  have hlength : takenLimits.entries.length < 2147483647 := by decide
  have hhashed : takenLimits.contains ("limit" ++ "-" ++ "2") = true := by decide
  have hunused : takenLimits.contains ("limit" ++ "-" ++ "4") = false := by decide
  have hname : freeName "limit" "2" takenLimits = "limit-3" := by decide
  obtain ⟨⟨probes, hprobes, hends⟩, hfree, -, hleast⟩ :=
    freeName_search "limit" "2" takenLimits hlength
  obtain ⟨-, -, hpicked, -⟩ := freeName_search "limit" "4" takenLimits hlength
  rw [hname] at hends hfree hleast
  exact ⟨hlength, hhashed, hunused, ⟨probes, hprobes, (hends _ _).2 ⟨rfl, rfl⟩⟩, hfree,
    hleast hhashed, hpicked hunused⟩

end SharedParameters

end Swagger

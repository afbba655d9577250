import Mathlib.Data.List.TakeWhile
import Swagger.Marker
import Swagger.Proofs.Run

/-! # Lines that hold markers
A marker line has blanks, perhaps two or more slashes and blanks again, a plus sign, a key, an equals sign
and a value, and blanks once more. The key is a word, and the value has no blanks, but may well hold slashes
and equals signs; still there is only one way to take such a line apart.

* `Marker.Layout`, `Marker.IsLine` — marker lines, with whatever stands around the marker.
* `Marker.splitLine?_eq_some_iff` — a line is taken apart exactly when it is a marker line.
* `Marker.Legal` — the values that a key may have.
* `Marker.Found`, `Marker.Bad` — what some lines hold, and what is wrong with a line.
* `Marker.ofLines_grammar` — what is read from some lines. -/

namespace Swagger

namespace Marker

/-! ## The form of a line -/

/-- How a marker line is laid out around the marker. -/
structure Layout where
  /-- What stands before the mark of a comment. -/
  before : List Char
  /-- The number of slashes in the mark. -/
  slashes : Nat
  /-- What stands between the mark and the marker. -/
  between : List Char
  /-- What stands after the marker. -/
  after : List Char
  /-- Nothing but blanks stands before the mark. -/
  blank_before : ∀ c ∈ before, Text.isBlank c = true
  /-- A mark has two slashes at least, if there is one. -/
  slashes_ne_one : slashes ≠ 1
  /-- Nothing but blanks stands between mark and marker. -/
  blank_between : ∀ c ∈ between, Text.isBlank c = true
  /-- Nothing but blanks stands after the marker. -/
  blank_after : ∀ c ∈ after, Text.isBlank c = true

/-- A line with a text in it. -/
def Layout.wrap (l : Layout) (text : String) : String :=
  String.ofList
    (l.before ++ (List.replicate l.slashes '/' ++ (l.between ++ (text.toList ++ l.after))))

/-- A marker line, with its key and its value. -/
structure IsLine (line key value : String) : Prop where
  /-- The key is not empty. -/
  key_ne : key ≠ ""
  /-- The key is a word. -/
  key_word : ∀ c ∈ key.toList, Text.isWord c = true
  /-- There is no blank in the value. -/
  value_solid : ∀ c ∈ value.toList, Text.isBlank c = false
  /-- The line holds both and no more, whatever its layout. -/
  layout : ∃ l : Layout, line = l.wrap ("+" ++ key ++ "=" ++ value)

/-! ## Taking a line apart -/

/-- What is left of a line without blanks, mark and blanks in front. -/
def unmarked (cs : List Char) : List Char :=
  (skipComment (cs.dropWhile Text.isBlank)).dropWhile Text.isBlank

/-- Characters that pass a test are dropped up to the first one that does not. -/
theorem dropWhile_append_of_head {p : Char → Bool} {cs rest : List Char} (hcs : ∀ c ∈ cs, p c = true)
    (hrest : ∀ c ∈ rest.head?, p c = false) : (cs ++ rest).dropWhile p = rest := by
  rw [List.dropWhile_append_of_pos hcs]
  cases rest with
  | nil => rfl
  | cons c rest => exact List.dropWhile_cons_of_neg (by simpa using hrest c rfl)

/-- Just these characters are taken. -/
theorem takeWhile_append_of_head {p : Char → Bool} {cs rest : List Char} (hcs : ∀ c ∈ cs, p c = true)
    (hrest : ∀ c ∈ rest.head?, p c = false) : (cs ++ rest).takeWhile p = cs := by
  rw [List.takeWhile_append_of_pos hcs]
  cases rest with
  | nil => simp
  | cons c rest => rw [List.takeWhile_cons_of_neg (by simpa using hrest c rfl), List.append_nil]

/-- A slash is no blank. -/
theorem isBlank_slash : Text.isBlank '/' = false := by decide

/-- The mark of a comment is skipped as a whole. -/
theorem skipComment_slashes {n : Nat} (hn : n ≠ 1) {rest : List Char} (hrest : '/' ∉ rest.head?) :
    skipComment (List.replicate n '/' ++ rest) = rest := by
  match n, hn with
  | 0, _ =>
    rw [List.replicate_zero, List.nil_append, skipComment]
    intro rest' heq
    exact hrest (by rw [heq]; rfl)
  | n + 2, _ =>
    have hslashes : ∀ c ∈ List.replicate n '/', (c == '/') = true := fun c hc =>
      beq_iff_eq.2 (List.eq_of_mem_replicate hc)
    refine (dropWhile_append_of_head hslashes fun c hc => ?_ :)
    exact beq_eq_false_iff_ne.2 fun heq => hrest (heq ▸ hc)

/-- Blanks do not begin with a slash. -/
theorem slash_notMem_head? {cs rest : List Char} (hcs : ∀ c ∈ cs, Text.isBlank c = true)
    (hrest : '/' ∉ rest.head?) : '/' ∉ (cs ++ rest).head? := by
  cases cs with
  | nil => exact hrest
  | cons c cs =>
    rintro ⟨⟩
    exact absurd ((hcs '/' List.mem_cons_self).symm.trans isBlank_slash) (by decide)

/-- A text that begins with neither a blank nor a slash is what is left of a line around it. -/
theorem unmarked_layout (l : Layout) {rest : List Char}
    (hblank : ∀ c ∈ rest.head?, Text.isBlank c = false) (hslash : '/' ∉ rest.head?) :
    unmarked (l.before ++ (List.replicate l.slashes '/' ++ (l.between ++ rest))) = rest := by
  have hbetween := dropWhile_append_of_head l.blank_between hblank
  rw [unmarked]
  by_cases hn : l.slashes = 0
  · -- without a mark the blanks on both sides of it are one stretch
    have hblanks : ∀ c ∈ l.before ++ l.between, Text.isBlank c = true := fun c hc =>
      (List.mem_append.1 hc).elim (l.blank_before c) (l.blank_between c)
    have hskip : skipComment rest = rest := skipComment_slashes (n := 0) (by decide) hslash
    rw [hn, List.replicate_zero, List.nil_append, ← List.append_assoc,
      dropWhile_append_of_head hblanks hblank, hskip]
    exact dropWhile_append_of_head (List.forall_mem_nil _) hblank
  · have hhead : ∀ c ∈ (List.replicate l.slashes '/' ++ (l.between ++ rest)).head?,
        Text.isBlank c = false := by
      obtain ⟨n, hn'⟩ := Nat.exists_eq_succ_of_ne_zero hn
      rw [hn', List.replicate_succ]
      rintro c ⟨⟩
      exact isBlank_slash
    rw [dropWhile_append_of_head l.blank_before hhead,
      skipComment_slashes l.slashes_ne_one (slash_notMem_head? l.blank_between hslash), hbetween]

/-- What is skipped is the mark of a comment. -/
theorem exists_skipComment (cs : List Char) :
    ∃ n, n ≠ 1 ∧ cs = List.replicate n '/' ++ skipComment cs := by
  by_cases hmark : ∃ rest, cs = '/' :: '/' :: rest
  · obtain ⟨rest, rfl⟩ := hmark
    have hmem : ∀ c ∈ rest.takeWhile (· == '/'), (c == '/') = true := fun c hc =>
      List.mem_takeWhile_imp (p := (· == '/')) hc
    have hslashes : rest.takeWhile (· == '/') = List.replicate (rest.takeWhile (· == '/')).length '/' :=
      List.eq_replicate_of_mem fun c hc => beq_iff_eq.1 (hmem c hc)
    refine ⟨(rest.takeWhile (· == '/')).length + 2, by omega, ?_⟩
    rw [List.replicate_succ, List.replicate_succ, ← hslashes]
    exact congrArg (fun r => '/' :: '/' :: r) List.takeWhile_append_dropWhile.symm
  · refine ⟨0, by decide, ?_⟩
    rw [skipComment]
    · rfl
    · exact fun rest heq => hmark ⟨rest, heq⟩

/-- Every text is what is left of it, with blanks and perhaps a mark in front. -/
theorem exists_layout (cs : List Char) {after : List Char}
    (hafter : ∀ c ∈ after, Text.isBlank c = true) : ∃ l : Layout, l.after = after ∧
      cs = l.before ++ (List.replicate l.slashes '/' ++ (l.between ++ unmarked cs)) := by
  obtain ⟨n, hn, hskip⟩ := exists_skipComment (cs.dropWhile Text.isBlank)
  refine ⟨{
    before := cs.takeWhile Text.isBlank
    slashes := n
    between := (skipComment (cs.dropWhile Text.isBlank)).takeWhile Text.isBlank
    after := after
    blank_before := fun c hc => List.mem_takeWhile_imp hc
    slashes_ne_one := hn
    blank_between := fun c hc => List.mem_takeWhile_imp hc
    blank_after := hafter }, rfl, ?_⟩
  simp only [unmarked, List.takeWhile_append_dropWhile, ← hskip]

/-- The characters of a marker line. -/
theorem toList_wrap (l : Layout) (key value : String) :
    (l.wrap ("+" ++ key ++ "=" ++ value)).toList = l.before ++ (List.replicate l.slashes '/' ++
      (l.between ++ '+' :: (key.toList ++ '=' :: (value.toList ++ l.after)))) := by
  simp [Layout.wrap]

/-- A line is taken apart behind the blanks and the mark of a comment. -/
theorem splitLine?_eq_unmarked (line : String) :
    splitLine? line = match unmarked line.toList with
      | '+' :: rest =>
        match rest.dropWhile Text.isWord with
        | '=' :: tail =>
          if (rest.takeWhile Text.isWord).isEmpty ||
              !(tail.dropWhile fun c => !Text.isBlank c).all Text.isBlank then none
          else some (String.ofList (rest.takeWhile Text.isWord),
            String.ofList (tail.takeWhile fun c => !Text.isBlank c))
        | _ => none
      | _ => none := rfl

/-- A marker line is taken apart into its key and its value. -/
theorem splitLine?_of_isLine {line key value : String} (h : IsLine line key value) :
    splitLine? line = some (key, value) := by
  obtain ⟨l, rfl⟩ := h.layout
  have hplus : unmarked (l.wrap ("+" ++ key ++ "=" ++ value)).toList
      = '+' :: (key.toList ++ '=' :: (value.toList ++ l.after)) := by
    rw [toList_wrap]
    exact unmarked_layout l (by rintro c ⟨⟩; decide) (by rintro ⟨⟩)
  have hword : ∀ c ∈ ('=' :: (value.toList ++ l.after)).head?, Text.isWord c = false := by
    rintro c ⟨⟩
    decide +kernel
  have hsolid : ∀ c ∈ value.toList, (!Text.isBlank c) = true := fun c hc => by
    rw [h.value_solid c hc]
    rfl
  have hblank : ∀ c ∈ l.after.head?, (!Text.isBlank c) = false := fun c hc => by
    rw [l.blank_after c (List.mem_of_mem_head? hc)]
    rfl
  have hkey : key.toList.isEmpty = false := by
    simpa using h.key_ne
  have hafter : l.after.all Text.isBlank = true := List.all_eq_true.2 l.blank_after
  rw [splitLine?_eq_unmarked, hplus]
  simp only [dropWhile_append_of_head h.key_word hword, takeWhile_append_of_head h.key_word hword,
    dropWhile_append_of_head hsolid hblank, takeWhile_append_of_head hsolid hblank, hkey, hafter,
    Bool.not_true, Bool.or_false, Bool.false_eq_true, if_false, String.ofList_toList]

/-- What is taken apart is a marker line. -/
theorem isLine_of_splitLine? {line key value : String} (h : splitLine? line = some (key, value)) :
    IsLine line key value := by
  rw [splitLine?_eq_unmarked] at h
  split at h
  · next rest hplus =>
    split at h
    · next tail hequals =>
      split at h
      · cases h
      · next hgood =>
        simp only [Bool.or_eq_true, not_or, Bool.not_eq_true, Bool.not_eq_false', List.all_eq_true]
          at hgood
        obtain ⟨hkey, hafter⟩ := hgood
        obtain ⟨rfl, rfl⟩ := Prod.mk.inj (Option.some.inj h)
        obtain ⟨l, hl, hline⟩ := exists_layout line.toList hafter
        refine ⟨by simpa using hkey, fun c hc => ?_, fun c hc => ?_, l, String.toList_inj.1 ?_⟩
        · exact List.mem_takeWhile_imp (by simpa using hc)
        · have hsolid := List.mem_takeWhile_imp (p := fun c => !Text.isBlank c) (by simpa using hc)
          simpa using hsolid
        · rw [hline, toList_wrap, hplus, hl, String.toList_ofList, String.toList_ofList,
            List.takeWhile_append_dropWhile, ← hequals, List.takeWhile_append_dropWhile]
    · cases h
  · cases h

/-- **A line is taken apart exactly when it is a marker line.** -/
theorem splitLine?_eq_some_iff (line key value : String) :
    splitLine? line = some (key, value) ↔ IsLine line key value :=
  ⟨isLine_of_splitLine?, splitLine?_of_isLine⟩

/-- A marker line has one key and one value. -/
theorem IsLine.unique {line key value key' value' : String} (h : IsLine line key value)
    (h' : IsLine line key' value') : key = key' ∧ value = value' :=
  Prod.mk.inj (Option.some.inj ((splitLine?_of_isLine h).symm.trans (splitLine?_of_isLine h')))

/-! ## Keys and values -/

/-- The keys of markers. -/
def markerKeys : List String := ["structType", "listType", "mapType", "listMapKey"]

/-- Whether a marker with a key may have a value. -/
def Legal (key value : String) : Prop :=
  (key = "structType" ∧ value ∈ ["atomic", "granular"]) ∨
    (key = "listType" ∧ value ∈ ["atomic", "set", "map"]) ∨
    (key = "mapType" ∧ value ∈ ["atomic", "granular"]) ∨ (key = "listMapKey" ∧ value ≠ "")

/-- The key of a marker is one of the four. -/
theorem key_mem (m : Marker) : m.key ∈ markerKeys := by
  cases m <;> simp [key, markerKeys]

/-- Where a key may have a value there is a marker with both. -/
theorem exists_of_legal {key value : String} (h : Legal key value) :
    ∃ m : Marker, m.key = key ∧ m.value = value := by
  simp only [Legal, List.mem_cons, List.not_mem_nil, or_false] at h
  rcases h with ⟨rfl, rfl | rfl⟩ | ⟨rfl, rfl | rfl | rfl⟩ | ⟨rfl, rfl | rfl⟩ | ⟨rfl, -⟩
  · exact ⟨.structType .atomic, rfl, rfl⟩
  · exact ⟨.structType .granular, rfl, rfl⟩
  · exact ⟨.listType .atomic, rfl, rfl⟩
  · exact ⟨.listType .set, rfl, rfl⟩
  · exact ⟨.listType .map, rfl, rfl⟩
  · exact ⟨.mapType .atomic, rfl, rfl⟩
  · exact ⟨.mapType .granular, rfl, rfl⟩
  · exact ⟨.listMapKey value, rfl, rfl⟩

/-- A marker is read from its key and its value. -/
theorem ofKeyValue_self {m : Marker} (h : Legal m.key m.value) :
    ofKeyValue m.key m.value = .ok (some m) := by
  cases m with
  | structType t => cases t <;> decide
  | listType t => cases t <;> decide
  | mapType t => cases t <;> decide
  | listMapKey field =>
    have hfield : field ≠ "" := by simpa [Legal, key, value] using h
    simp [ofKeyValue, key, value, hfield]

/-- A value that its key may not have is refused, and the refusal names both. -/
theorem ofKeyValue_of_not_legal {key value : String} (hmem : key ∈ markerKeys)
    (h : ¬Legal key value) : ofKeyValue key value = .error (.invalidValue key value) := by
  simp only [markerKeys, List.mem_cons, List.not_mem_nil, or_false] at hmem
  rcases hmem with rfl | rfl | rfl | rfl
  · have hnot : "atomic" ≠ value ∧ "granular" ≠ value := by simpa [Legal, eq_comm] using h
    simp [ofKeyValue, StructType.ofWord?, StructType.word, hnot]
  · have hnot : "atomic" ≠ value ∧ "set" ≠ value ∧ "map" ≠ value := by
      simpa [Legal, eq_comm] using h
    simp [ofKeyValue, ListType.ofWord?, ListType.word, hnot]
  · have hnot : "atomic" ≠ value ∧ "granular" ≠ value := by simpa [Legal, eq_comm] using h
    simp [ofKeyValue, MapType.ofWord?, MapType.word, hnot]
  · have hempty : value = "" := by simpa [Legal] using h
    simp [ofKeyValue, hempty]

/-- A key that is no marker's is passed over. -/
theorem ofKeyValue_of_not_mem {key : String} (h : key ∉ markerKeys) (value : String) :
    ofKeyValue key value = .ok none := by
  simp only [markerKeys, List.mem_cons, List.not_mem_nil, or_false, not_or] at h
  simp [ofKeyValue, h]

/-! ## One line -/

/-- A marker line with a value that its key may not have. -/
def Bad (line key value : String) : Prop := IsLine line key value ∧ key ∈ markerKeys ∧ ¬Legal key value

/-- A line that holds no marker: it is no marker line, or its key is no marker's. -/
def PassedOver (line : String) : Prop := ∀ key value, IsLine line key value → key ∉ markerKeys

/-- A marker line is read from its key and its value. -/
theorem ofLine_of_isLine {line key value : String} (h : IsLine line key value) :
    ofLine line = ofKeyValue key value := by
  rw [ofLine, splitLine?_of_isLine h]

/-- A line is passed over, holds a marker, or is bad. -/
theorem ofLine_cases (line : String) :
    (PassedOver line ∧ ofLine line = .ok none) ∨
      (∃ m : Marker, IsLine line m.key m.value ∧ Legal m.key m.value ∧ ofLine line = .ok (some m)) ∨
      ∃ key value, Bad line key value ∧ ofLine line = .error (.invalidValue key value) := by
  cases hsplit : splitLine? line with
  | none =>
    refine .inl ⟨fun key value h => ?_, by rw [ofLine, hsplit]⟩
    rw [splitLine?_of_isLine h] at hsplit
    cases hsplit
  | some p =>
    obtain ⟨key, value⟩ := p
    have hisLine := isLine_of_splitLine? hsplit
    rw [ofLine_of_isLine hisLine]
    by_cases hmem : key ∈ markerKeys
    · by_cases hlegal : Legal key value
      · obtain ⟨m, rfl, rfl⟩ := exists_of_legal hlegal
        exact .inr (.inl ⟨m, hisLine, hlegal, ofKeyValue_self hlegal⟩)
      · exact .inr (.inr ⟨key, value, ⟨hisLine, hmem, hlegal⟩, ofKeyValue_of_not_legal hmem hlegal⟩)
    · refine .inl ⟨fun key' value' h => ?_, ofKeyValue_of_not_mem hmem value⟩
      obtain ⟨rfl, -⟩ := hisLine.unique h
      exact hmem

/-- Nothing is read from just the lines that hold no marker. -/
theorem ofLine_eq_none_iff (line : String) : ofLine line = .ok none ↔ PassedOver line := by
  rcases ofLine_cases line with ⟨hpassed, hread⟩ | ⟨m, hisLine, -, hread⟩ |
    ⟨key, value, ⟨hisLine, hmem, -⟩, hread⟩
  · exact iff_of_true hread hpassed
  · exact iff_of_false (by simp [hread]) fun hpassed => hpassed _ _ hisLine m.key_mem
  · exact iff_of_false (by simp [hread]) fun hpassed => hpassed _ _ hisLine hmem

/-- A marker is read from just the lines that hold it. -/
theorem ofLine_eq_some_iff (line : String) (m : Marker) :
    ofLine line = .ok (some m) ↔ IsLine line m.key m.value ∧ Legal m.key m.value := by
  rcases ofLine_cases line with ⟨hpassed, hread⟩ | ⟨m', hisLine, hlegal, hread⟩ |
    ⟨key, value, ⟨hisLine, -, hlegal⟩, hread⟩
  · exact iff_of_false (by simp [hread]) fun h => hpassed _ _ h.1 m.key_mem
  · refine ⟨fun h => ?_, fun h => (ofLine_of_isLine h.1).trans (ofKeyValue_self h.2)⟩
    obtain rfl : m' = m := Option.some.inj (Except.ok.inj (hread.symm.trans h))
    exact ⟨hisLine, hlegal⟩
  · refine iff_of_false (by simp [hread]) fun h => hlegal ?_
    obtain ⟨rfl, rfl⟩ := h.1.unique hisLine
    exact h.2

/-- Just the bad lines are refused, with their key and their value. -/
theorem ofLine_eq_error_iff (line : String) (e : MarkerError) :
    ofLine line = .error e ↔ ∃ key value, Bad line key value ∧ e = .invalidValue key value := by
  rcases ofLine_cases line with ⟨hpassed, hread⟩ | ⟨m, hisLine, hlegal, hread⟩ |
    ⟨key, value, hbad, hread⟩
  · refine iff_of_false (by simp [hread]) ?_
    rintro ⟨key, value, hbad, -⟩
    exact hpassed key value hbad.1 hbad.2.1
  · refine iff_of_false (by simp [hread]) ?_
    rintro ⟨key, value, hbad, -⟩
    obtain ⟨rfl, rfl⟩ := hisLine.unique hbad.1
    exact hbad.2.2 hlegal
  · rw [hread, Except.error.injEq]
    refine ⟨fun heq => ⟨key, value, hbad, heq.symm⟩, ?_⟩
    rintro ⟨key', value', hbad', rfl⟩
    obtain ⟨rfl, rfl⟩ := hbad.1.unique hbad'.1
    rfl

/-! ## Many lines -/

/-- The markers that some lines hold, in order. -/
inductive Found : List String → List Marker → Prop where
  /-- No lines hold no markers. -/
  | nil : Found [] []
  /-- A marker line holds the marker with its key and its value. -/
  | marker {line : String} {lines : List String} {m : Marker} {ms : List Marker}
      (hline : IsLine line m.key m.value) (hlegal : Legal m.key m.value) (hrest : Found lines ms) :
      Found (line :: lines) (m :: ms)
  /-- Other lines hold none. -/
  | other {line : String} {lines : List String} {ms : List Marker} (hline : PassedOver line)
      (hrest : Found lines ms) : Found (line :: lines) ms

/-- **What is read are the markers that the lines hold.** -/
theorem ofLines_eq_ok_iff (lines : List String) (ms : List Marker) :
    ofLines lines = .ok ms ↔ Found lines ms := by
  induction lines generalizing ms with
  | nil =>
    constructor
    · rintro ⟨⟩
      exact .nil
    · rintro ⟨⟩
      rfl
  | cons line rest ih =>
    rw [ofLines, Run.bind_eq_ok]
    constructor
    · rintro ⟨o, hline, h⟩
      obtain ⟨ms', hrest, h⟩ := Run.bind_eq_ok.1 h
      obtain rfl := Run.pure_eq_ok.1 h
      cases o with
      | none => exact .other ((ofLine_eq_none_iff line).1 hline) ((ih ms').1 hrest)
      | some m =>
        obtain ⟨hisLine, hlegal⟩ := (ofLine_eq_some_iff line m).1 hline
        exact .marker hisLine hlegal ((ih ms').1 hrest)
    · intro h
      cases h with
      | @marker _ _ m ms hisLine hlegal hrest =>
        exact ⟨some m, (ofLine_eq_some_iff line m).2 ⟨hisLine, hlegal⟩,
          Run.bind_eq_ok.2 ⟨ms, (ih ms).2 hrest, rfl⟩⟩
      | other hpassed hrest =>
        exact ⟨none, (ofLine_eq_none_iff line).2 hpassed, Run.bind_eq_ok.2 ⟨ms, (ih ms).2 hrest, rfl⟩⟩

/-- **The first bad line is what is refused.** -/
theorem ofLines_eq_error_iff (lines : List String) (e : MarkerError) :
    ofLines lines = .error e ↔ ∃ before line after key value, lines = before ++ line :: after ∧
      Bad line key value ∧ e = .invalidValue key value ∧
      ∀ l ∈ before, ∀ key value, ¬Bad l key value := by
  induction lines with
  | nil => simp [ofLines]
  | cons line rest ih =>
    rw [ofLines, Run.bind_eq_error, ofLine_eq_error_iff]
    constructor
    · rintro (⟨key, value, hbad, rfl⟩ | ⟨o, hline, h⟩)
      · exact ⟨[], line, rest, key, value, rfl, hbad, rfl, by simp⟩
      · have hrest : ofLines rest = .error e := by
          rcases Run.bind_eq_error.1 h with h | ⟨ms, -, h⟩
          · exact h
          · cases h
        obtain ⟨before, line', after, key, value, rfl, hbad, he, hbefore⟩ := ih.1 hrest
        refine ⟨line :: before, line', after, key, value, rfl, hbad, he, fun l hl => ?_⟩
        rcases List.mem_cons.1 hl with rfl | hl
        · -- the first line was read
          intro key' value' hbad'
          rw [(ofLine_eq_error_iff l _).2 ⟨key', value', hbad', rfl⟩] at hline
          cases hline
        · exact hbefore l hl
    · rintro ⟨before, line', after, key, value, hlines, hbad, rfl, hbefore⟩
      cases before with
      | nil =>
        obtain ⟨rfl, rfl⟩ := List.cons.inj hlines
        exact .inl ⟨key, value, hbad, rfl⟩
      | cons first before =>
        obtain ⟨rfl, hrest⟩ := List.cons.inj hlines
        have herror := ih.2 ⟨before, line', after, key, value, hrest, hbad, rfl,
          fun l hl => hbefore l (List.mem_cons_of_mem _ hl)⟩
        cases hline : ofLine line with
        | ok o => exact .inr ⟨o, rfl, Run.bind_eq_error.2 (.inl herror)⟩
        | error e =>
          obtain ⟨key', value', hbad', -⟩ := (ofLine_eq_error_iff line e).1 hline
          exact absurd hbad' (hbefore line List.mem_cons_self key' value')

/-- Lines in which markers are found have no bad one among them. -/
theorem Found.not_bad {lines : List String} {ms : List Marker} (h : Found lines ms) {line : String}
    (hline : line ∈ lines) (key value : String) : ¬Bad line key value := by
  induction h with
  | nil => exact absurd hline List.not_mem_nil
  | marker hisLine hlegal hrest ih =>
    rcases List.mem_cons.1 hline with rfl | hline
    · rintro ⟨hisLine', -, hillegal⟩
      obtain ⟨rfl, rfl⟩ := hisLine.unique hisLine'
      exact hillegal hlegal
    · exact ih hline
  | other hpassed hrest ih =>
    rcases List.mem_cons.1 hline with rfl | hline
    · exact fun hbad => hpassed key value hbad.1 hbad.2.1
    · exact ih hline

/-- Lines are refused exactly when one of them is bad. -/
theorem exists_error_iff (lines : List String) :
    (∃ e, ofLines lines = .error e) ↔ ∃ line ∈ lines, ∃ key value, Bad line key value := by
  constructor
  · rintro ⟨e, h⟩
    obtain ⟨before, line, after, key, value, rfl, hbad, -⟩ := (ofLines_eq_error_iff lines e).1 h
    exact ⟨line, List.mem_append_right _ List.mem_cons_self, key, value, hbad⟩
  · rintro ⟨line, hline, key, value, hbad⟩
    cases hread : ofLines lines with
    | ok ms => exact absurd hbad (((ofLines_eq_ok_iff lines ms).1 hread).not_bad hline key value)
    | error e => exact ⟨e, rfl⟩

/-- Lines are read part by part. -/
theorem ofLines_append (lines lines' : List String) :
    ofLines (lines ++ lines') = do
      let ms ← ofLines lines
      let ms' ← ofLines lines'
      return ms ++ ms' := by
  induction lines with
  | nil =>
    rw [List.nil_append]
    cases ofLines lines' <;> rfl
  | cons line rest ih =>
    rw [List.cons_append, ofLines, ofLines, ih]
    cases ofLine line with
    | error e => rfl
    | ok o =>
      cases ofLines rest with
      | error e => rfl
      | ok ms =>
        cases ofLines lines' with
        | error e => rfl
        | ok ms' => exact congrArg Except.ok (List.append_assoc ..).symm

/-! ## Lines that are written -/

/-- Whether a marker can be written on a line: the field that it names, if any, has a name, without
blanks. -/
def Writable (m : Marker) : Prop :=
  ∀ field, m = .listMapKey field → field ≠ "" ∧ ∀ c ∈ field.toList, Text.isBlank c = false

/-- A marker that can be written has a value that its key may have. -/
theorem Writable.legal {m : Marker} (h : m.Writable) : Legal m.key m.value := by
  cases m with
  | structType t => exact .inl ⟨rfl, by cases t <;> decide⟩
  | listType t => exact .inr (.inl ⟨rfl, by cases t <;> decide⟩)
  | mapType t => exact .inr (.inr (.inl ⟨rfl, by cases t <;> decide⟩))
  | listMapKey field => exact .inr (.inr (.inr ⟨rfl, (h field rfl).1⟩))

/-- The keys of markers are words. -/
theorem word_of_mem_markerKeys : ∀ k ∈ markerKeys, k ≠ "" ∧ k.toList.all Text.isWord = true := by
  decide +kernel

/-- There is no blank in a value that is written. -/
theorem Writable.value_solid {m : Marker} (h : m.Writable) :
    ∀ c ∈ m.value.toList, Text.isBlank c = false := by
  -- the types have fixed words
  have hword {w : String} (hw : w.toList.all (fun c => !Text.isBlank c) = true) :
      ∀ c ∈ w.toList, Text.isBlank c = false := by
    simpa using hw
  cases m with
  | structType t => exact hword (by cases t <;> decide)
  | listType t => exact hword (by cases t <;> decide)
  | mapType t => exact hword (by cases t <;> decide)
  | listMapKey field => exact (h field rfl).2

/-- A marker that is written on a line stands there. -/
theorem Writable.isLine_wrap {m : Marker} (h : m.Writable) (l : Layout) :
    IsLine (l.wrap m.line) m.key m.value := by
  obtain ⟨hne, hword⟩ := word_of_mem_markerKeys m.key m.key_mem
  exact ⟨hne, List.all_eq_true.1 hword, h.value_solid, l, rfl⟩

/-- Markers that are written on lines are found there, whatever the layout of each line. -/
theorem found_wrap {lines : List (Layout × Marker)} (h : ∀ p ∈ lines, p.2.Writable) :
    Found (lines.map fun p => p.1.wrap p.2.line) (lines.map Prod.snd) := by
  induction lines with
  | nil => exact .nil
  | cons p rest ih =>
    have hwritable := h p List.mem_cons_self
    exact .marker (hwritable.isLine_wrap p.1) hwritable.legal
      (ih fun q hq => h q (List.mem_cons_of_mem _ hq))

/-- **Comment lines are read by their grammar.** A line is a marker line exactly when it is taken apart,
which gives it one key and one value. What is read from some lines are the markers of the marker lines with
a marker's key, in order; lines are refused exactly when one of these has a value that its key may not have,
and the first of them is named. So lines can be read part by part, and markers that are written on lines,
whatever the layout of each, are read again. -/
theorem ofLines_grammar (lines : List String) :
    (∀ line key value, splitLine? line = some (key, value) ↔ IsLine line key value) ∧
    (∀ line key value key' value', IsLine line key value → IsLine line key' value' →
      key = key' ∧ value = value') ∧
    (∀ ms, ofLines lines = .ok ms ↔ Found lines ms) ∧
    ((∃ e, ofLines lines = .error e) ↔ ∃ line ∈ lines, ∃ key value, Bad line key value) ∧
    (∀ e, ofLines lines = .error e ↔ ∃ before line after key value, lines = before ++ line :: after ∧
      Bad line key value ∧ e = .invalidValue key value ∧
      ∀ l ∈ before, ∀ key value, ¬Bad l key value) ∧
    (∀ lines', ofLines (lines ++ lines') = do
      let ms ← ofLines lines
      let ms' ← ofLines lines'
      return ms ++ ms') ∧
    ∀ written : List (Layout × Marker), (∀ p ∈ written, p.2.Writable) →
      ofLines (written.map fun p => p.1.wrap p.2.line) = .ok (written.map Prod.snd) :=
  ⟨splitLine?_eq_some_iff, fun _ _ _ _ _ h h' => h.unique h', ofLines_eq_ok_iff lines,
    exists_error_iff lines, ofLines_eq_error_iff lines, ofLines_append lines,
    fun _ h => (ofLines_eq_ok_iff _ _).2 (found_wrap h)⟩

/-- A line of documentation, with a marker in it. -/
def documented : Layout where
  before := [' ']
  slashes := 3
  between := [' ']
  after := ['\t']
  blank_before := List.forall_mem_singleton.2 (by decide)
  slashes_ne_one := by decide
  blank_between := List.forall_mem_singleton.2 (by decide)
  blank_after := List.forall_mem_singleton.2 (by decide)

/-- Markers in documentation are read again, also where a value looks like a marker line; a bad line that
comes after them is named. -/
theorem ofLines_grammar_documented :
    ∃ lines, lines = [" /// +listType=map\t", " /// +listMapKey=//+a=b\t"] ∧
      ofLines lines = .ok [.listType .map, .listMapKey "//+a=b"] ∧
      ofLines (lines ++ ["+listType=bag", "+mapType="]) = .error (.invalidValue "listType" "bag") := by
  let written : List (Layout × Marker) :=
    [(documented, .listType .map), (documented, .listMapKey "//+a=b")]
  have hwritable : ∀ p ∈ written, p.2.Writable := by
    refine List.forall_mem_cons.2 ⟨?_, List.forall_mem_singleton.2 ?_⟩
    · rintro field ⟨⟩
    · rintro field ⟨⟩
      have hsolid : "//+a=b".toList.all (fun c => !Text.isBlank c) = true := by decide
      exact ⟨by decide, by simpa using hsolid⟩
  obtain ⟨-, -, -, -, -, -, hwritten⟩ := ofLines_grammar []
  have hread := hwritten written hwritable
  obtain ⟨-, -, -, -, -, happend, -⟩ := ofLines_grammar (written.map fun p => p.1.wrap p.2.line)
  refine ⟨_, by decide +kernel, hread, ?_⟩
  rw [happend, hread]
  decide +kernel

end Marker

end Swagger

import Mathlib.Data.List.Basic
import Swagger.Json.Printer
import Swagger.Json.Reader

/-! # What the text of a value determines
Parameters are told apart by their texts, so it matters what a text says. A string is read back from its
text piece by piece, and what follows its closing quote is left over. Any other value can at least be
passed over, counting brackets outside strings, up to the comma or bracket behind it. So the text of a
member ends where it says, whatever comes after it, and the text of an object determines its keys and
the texts of its values; where these are strings and flags, it determines the object.

* `Json.Text.pieces?_escape`, `Json.Text.pieces?_quoted` — reading undoes escaping.
* `Json.quoted_append_inj` — the text of a string tells where it ends.
* `Json.Passed`, `Json.passed_compact` — the text of a value is passed over as a whole.
* `Json.compact_append_inj` — so it tells where it ends.
* `Json.memberTexts_eq_of_compact_eq` — the text of an object determines the texts of its members;
  `Json.lastText_eq_of_compact_eq` — so it determines the text of the last value under each key.
* `Json.compact_inj_of_flat` — the text of a flat object determines it. -/

namespace Swagger

namespace Json

/-! ## Strings -/

namespace Text

/-- The piece as which the text of a character is read. -/
def pieceOf (c : Char) : Piece :=
  match c with
  | '\x22' => .escaped '\x22'
  | '\x5c' => .escaped '\x5c'
  | '\x08' => .escaped '\x08'
  | '\x0c' => .escaped '\x0c'
  | '\n' => .escaped '\n'
  | '\r' => .escaped '\r'
  | '\t' => .escaped '\t'
  | c => if c.toNat < 0x20 then .unit c.toNat else .char c

/-- The character that a piece stands for. -/
def Piece.toChar : Piece → Char
  | .char c => c
  | .escaped c => c
  | .unit n => Char.ofNat n

/-- The piece of a character stands for it. -/
@[simp] theorem toChar_pieceOf (c : Char) : (pieceOf c).toChar = c := by
  unfold pieceOf
  split <;> try rfl
  split
  · exact Char.ofNat_toNat c
  · rfl

/-- Different characters are read as different pieces. -/
theorem pieceOf_injective : Function.Injective pieceOf :=
  Function.LeftInverse.injective (g := Piece.toChar) toChar_pieceOf

/-- Two digits are enough for a control character. -/
theorem unit?_hexDigit {n : Nat} (h : n < 0x20) :
    unit? '0' '0' (hexDigit (n / 16)) (hexDigit (n % 16)) = some n := by
  have hall : ∀ n < 0x20, unit? '0' '0' (hexDigit (n / 16)) (hexDigit (n % 16)) = some n := by decide
  exact hall n h

/-- A character without an escape is read as itself. -/
theorem pieces?_cons_of_plain (found : List Piece) {c : Char} (hquote : c ≠ '\x22')
    (hslash : c ≠ '\x5c') (hc : ¬c.toNat < 0x20) (rest : List Char) :
    pieces? found (c :: rest) = pieces? (.char c :: found) rest := by
  rw [pieces?.eq_def]
  split
  · next h => exact nomatch h
  · next h => exact absurd (List.cons.inj h).1 hquote
  · next h => exact absurd (List.cons.inj h).1 hslash
  · next h => exact absurd (List.cons.inj h).1 hslash
  · next h =>
    obtain ⟨rfl, rfl⟩ := List.cons.inj h
    simp [hc, hslash]

/-- Reading the text of a character gives its piece. -/
theorem pieces?_escape (found : List Piece) (c : Char) (rest : List Char) :
    pieces? found (escape c ++ rest) = pieces? (pieceOf c :: found) rest := by
  unfold escape pieceOf
  split <;> try rfl
  next hquote hslash _ _ _ _ _ =>
    -- the characters with an escape of their own are dealt with; control characters are written as units
    by_cases h : c.toNat < 0x20
    · simp [h, pieces?, unit?_hexDigit h]
    · simp only [h, if_false]
      exact pieces?_cons_of_plain found hquote hslash h rest

/-- Reading the text of a string gives its pieces, and leaves what follows the closing quote. -/
theorem pieces?_quoted (cs rest : List Char) (found : List Piece) :
    pieces? found (cs.flatMap escape ++ '\x22' :: rest)
      = some (found.reverse ++ cs.map pieceOf, rest) := by
  induction cs generalizing found with
  | nil => simp [pieces?]
  | cons c cs ih =>
    rw [List.flatMap_cons, List.append_assoc, pieces?_escape, ih]
    simp

end Text

/-- A string is written between quotes, each character with its escape. -/
theorem toList_quoted (s : String) :
    (quoted s).toList = '\x22' :: (s.toList.flatMap escape ++ ['\x22']) :=
  String.toList_ofList

/-- The text of a string tells where it ends. -/
theorem quoted_append_inj {s t : String} {u v : List Char}
    (h : (quoted s).toList ++ u = (quoted t).toList ++ v) : s = t ∧ u = v := by
  rw [toList_quoted, toList_quoted] at h
  simp only [List.cons_append, List.append_assoc, List.nil_append, List.cons.injEq, true_and] at h
  -- reading stops at the closing quote of either string
  have hread := congrArg (Text.pieces? []) h
  rw [Text.pieces?_quoted, Text.pieces?_quoted] at hread
  obtain ⟨hpieces, rfl⟩ := Prod.mk.inj (Option.some.inj hread)
  have hmap : s.toList.map Text.pieceOf = t.toList.map Text.pieceOf := by simpa using hpieces
  exact ⟨String.toList_inj.1 (List.map_injective_iff.2 Text.pieceOf_injective hmap), rfl⟩

/-! ## Where a value ends -/

/-- Where one stands in a text: outside strings, in a string, or behind its backslash. -/
inductive TextMode where
  /-- Outside strings. -/
  | outside
  /-- In a string. -/
  | inside
  /-- In a string, behind a backslash. -/
  | escaped

/-- What is left of a text when one passes over it, some brackets deep, up to a comma or a closing
bracket that belongs to no value passed over. -/
def beyond : TextMode → Nat → List Char → List Char
  | _, _, [] => []
  | .escaped, depth, _ :: cs => beyond .inside depth cs
  | .inside, depth, c :: cs =>
    if c = '\x22' then beyond .outside depth cs
    else if c = '\x5c' then beyond .escaped depth cs
    else beyond .inside depth cs
  | .outside, depth, c :: cs =>
    if c = '\x22' then beyond .inside depth cs
    else if c = '[' ∨ c = '\x7b' then beyond .outside (depth + 1) cs
    else if c = ']' ∨ c = '\x7d' then
      if depth = 0 then c :: cs else beyond .outside (depth - 1) cs
    else if c = ',' ∧ depth = 0 then c :: cs
    else beyond .outside depth cs

/-- A text is passed over, whatever follows it. -/
def Passed (w : List Char) : Prop :=
  ∀ depth u, beyond .outside depth (w ++ u) = beyond .outside depth u

/-- Two texts that are passed over are passed over together. -/
theorem Passed.append {w w' : List Char} (h : Passed w) (h' : Passed w') : Passed (w ++ w') := by
  intro depth u
  rw [List.append_assoc, h, h']

/-- A character that begins no string and neither opens, closes nor separates anything. -/
def IsBare (c : Char) : Prop := c ∉ ['\x22', '[', '\x7b', ']', '\x7d', ',']

instance (c : Char) : Decidable (IsBare c) := inferInstanceAs (Decidable (¬_))

/-- A text of such characters. -/
def BareText (s : String) : Prop := ∀ c ∈ s.toList, IsBare c

instance (s : String) : Decidable (BareText s) := List.decidableBAll IsBare s.toList

/-- Two bare texts make a bare one. -/
theorem BareText.append {s t : String} (hs : BareText s) (ht : BareText t) : BareText (s ++ t) := by
  intro c hc
  rw [String.toList_append, List.mem_append] at hc
  exact hc.elim (hs c) (ht c)

/-- A text is bare if it is made of bare characters. -/
theorem bareText_ofList {cs : List Char} (h : ∀ c ∈ cs, IsBare c) : BareText (String.ofList cs) := by
  intro c hc
  rw [String.toList_ofList] at hc
  exact h c hc

/-- A text of bare characters is passed over. -/
theorem BareText.passed {s : String} (h : BareText s) : Passed s.toList := by
  intro depth u
  unfold BareText at h
  generalize s.toList = w at h ⊢
  induction w with
  | nil => rfl
  | cons c w ih =>
    have hc : IsBare c := h c List.mem_cons_self
    simp only [IsBare, List.mem_cons, List.not_mem_nil, or_false, not_or] at hc
    obtain ⟨hquote, hsquare, hcurly, hsquare', hcurly', hcomma⟩ := hc
    rw [List.cons_append, beyond, if_neg hquote, if_neg (not_or.2 ⟨hsquare, hcurly⟩),
      if_neg (not_or.2 ⟨hsquare', hcurly'⟩), if_neg fun h => hcomma h.1]
    exact ih fun c hc => h c (List.mem_cons_of_mem _ hc)

/-- The text of a character does not end a string. -/
theorem beyond_escape (depth : Nat) (c : Char) (u : List Char) :
    beyond .inside depth (escape c ++ u) = beyond .inside depth u := by
  unfold escape
  split <;> try rfl
  next hquote hslash _ _ _ _ _ =>
    by_cases h : c.toNat < 0x20
    · -- four digits follow the backslash and its letter
      have hdigit : ∀ n < 16, hexDigit n ≠ '\x22' ∧ hexDigit n ≠ '\x5c' := by decide
      have hhigh := hdigit (c.toNat / 16) (by omega)
      have hlow := hdigit (c.toNat % 16) (by omega)
      simp [h, beyond, hhigh, hlow]
    · simp [h, beyond, show c ≠ '\x22' from hquote, show c ≠ '\x5c' from hslash]

/-- The text of a string is passed over. -/
theorem passed_quoted (s : String) : Passed (quoted s).toList := by
  intro depth u
  have hinside : ∀ cs : List Char,
      beyond .inside depth (cs.flatMap escape ++ '\x22' :: u) = beyond .outside depth u := by
    intro cs
    induction cs with
    | nil => simp [beyond]
    | cons c cs ih => rw [List.flatMap_cons, List.append_assoc, beyond_escape, ih]
  rw [toList_quoted, List.cons_append, List.append_assoc, beyond, if_pos rfl]
  exact hinside s.toList

/-! ### Numbers -/

/-- A digit is bare. -/
theorem isBare_of_isDigit {c : Char} (h : c.isDigit = true) : IsBare c := by
  intro hmem
  simp only [List.mem_cons, List.not_mem_nil, or_false] at hmem
  rcases hmem with rfl | rfl | rfl | rfl | rfl | rfl <;> exact absurd h (by decide)

/-- So are the digits of a number. -/
theorem isBare_of_mem_toDigits {n : Nat} {c : Char} (h : c ∈ Nat.toDigits 10 n) : IsBare c :=
  isBare_of_isDigit (Nat.isDigit_of_mem_toDigits (by decide) (by decide) h)

/-- A natural number is written in bare characters. -/
theorem bareText_toString (n : Nat) : BareText (toString n) := by
  intro c hc
  rw [Nat.toString_eq_repr, Nat.toList_repr] at hc
  exact isBare_of_mem_toDigits hc

/-- So is an integer: its sign is bare, too. -/
theorem bareText_toString_int (i : Int) : BareText (toString i) := by
  cases i with
  | ofNat n => exact bareText_toString n
  | negSucc n => exact BareText.append (s := "-") (by decide) (bareText_toString (n + 1))

/-- A row of zeros is bare. -/
theorem bareText_zeros (n : Nat) : BareText (DecimalLayout.zeros n) := by
  refine bareText_ofList fun c hc => ?_
  rw [List.eq_of_mem_replicate hc]
  decide

/-- A finite magnitude is written in digits, a point, a sign and the letter of the exponent. -/
theorem bareText_writeDecimal (layout : DecimalLayout) (d : Decimal) :
    BareText (layout.writeDecimal d) := by
  have hdigits : BareText (String.ofList (Nat.toDigits 10 d.digits)) :=
    bareText_ofList fun c => isBare_of_mem_toDigits
  have htake : ∀ n, BareText (String.ofList ((Nat.toDigits 10 d.digits).take n)) :=
    fun n => bareText_ofList fun c hc => isBare_of_mem_toDigits (List.mem_of_mem_take hc)
  have hdrop : ∀ n, BareText (String.ofList ((Nat.toDigits 10 d.digits).drop n)) :=
    fun n => bareText_ofList fun c hc => isBare_of_mem_toDigits (List.mem_of_mem_drop hc)
  have hpoint : BareText "." := by decide
  have hmantissa : BareText (if (Nat.toDigits 10 d.digits).length = 1 then
      String.ofList (Nat.toDigits 10 d.digits)
      else String.ofList ((Nat.toDigits 10 d.digits).take 1) ++ "." ++
        String.ofList ((Nat.toDigits 10 d.digits).drop 1)) := by
    split_ifs
    · exact hdigits
    · exact ((htake 1).append hpoint).append (hdrop 1)
  have hsign : ∀ e : Int, BareText (if e < 0 then "-" else if layout.plus then "+" else "") := by
    intro e
    split_ifs <;> decide
  unfold DecimalLayout.writeDecimal
  by_cases hzero : d.digits = 0
  · rw [if_pos hzero]
    decide
  rw [if_neg hzero]
  split
  · split
    · exact (hdigits.append (bareText_zeros _)).append (by decide)
    · split
      · exact ((htake _).append hpoint).append (hdrop _)
      · exact (BareText.append (by decide) (bareText_zeros _)).append hdigits
  · exact ((hmantissa.append (by decide)).append (hsign _)).append (bareText_toString _)

/-- No number needs more than that. -/
theorem bareText_numberText (n : Number) : BareText (numberText n) := by
  cases n with
  | int i => exact bareText_toString_int i
  | real d =>
    have hbody := bareText_writeDecimal numberLayout (Decimal.shortest d)
    show BareText (if d.isFinite = true then numberLayout.write d else "null")
    split_ifs with hfinite
    · unfold DecimalLayout.write
      rw [if_pos hfinite]
      split_ifs
      · decide
      · exact BareText.append (by decide) hbody
      · exact hbody
    · decide

/-! ### Values -/

/-- Texts between brackets, separated by commas, are passed over together if each of them is. -/
theorem passed_between {ts : List String} (h : ∀ t ∈ ts, Passed t.toList) {opening closing : Char}
    (ho : opening = '[' ∨ opening = '\x7b') (hc : closing = ']' ∨ closing = '\x7d') :
    Passed (opening :: ((",".intercalate ts).toList ++ [closing])) := by
  -- one bracket deeper the texts are passed over with their commas
  have hinner : ∀ depth u, beyond .outside (depth + 1) ((",".intercalate ts).toList ++ u)
      = beyond .outside (depth + 1) u := by
    intro depth u
    rw [String.toList_intercalate]
    induction ts with
    | nil => rfl
    | cons t rest ih =>
      have ht := h t List.mem_cons_self
      have hrest := ih fun t ht => h t (List.mem_cons_of_mem _ ht)
      cases rest with
      | nil => simpa using ht (depth + 1) u
      | cons t' rest =>
        rw [List.map_cons] at hrest ⊢
        rw [List.map_cons, List.intercalate_cons_cons, List.append_assoc, List.append_assoc, ht]
        exact hrest
  have hquote : opening ≠ '\x22' ∧ closing ≠ '\x22' ∧ ¬(closing = '[' ∨ closing = '\x7b') := by
    rcases ho with rfl | rfl <;> rcases hc with rfl | rfl <;> decide
  intro depth u
  rw [List.cons_append, List.append_assoc, beyond, if_neg hquote.1, if_pos ho, hinner,
    List.singleton_append, beyond, if_neg hquote.2.1, if_neg hquote.2.2, if_pos hc,
    if_neg (Nat.succ_ne_zero depth), Nat.add_sub_cancel]

mutual

/-- **The text of a value is passed over.** -/
theorem passed_compact : (x : Json) → Passed (compact x).toList
  | .null => BareText.passed (s := "null") (by decide)
  | .bool true => BareText.passed (s := "true") (by decide)
  | .bool false => BareText.passed (s := "false") (by decide)
  | .num n => (bareText_numberText n).passed
  | .str s => passed_quoted s
  | .arr items => by
    have h := passed_between (passed_of_mem_compactItems items) (Or.inl rfl) (Or.inl rfl)
    simpa [compact] using h
  | .obj members => by
    have h := passed_between (passed_of_mem_compactMembers members) (Or.inr rfl) (Or.inr rfl)
    simpa [compact] using h

/-- So are the texts of items. -/
theorem passed_of_mem_compactItems : (l : List Json) → ∀ t ∈ compactItems l, Passed t.toList
  | [], t, ht => absurd ht List.not_mem_nil
  | x :: rest, t, ht => by
    rcases List.mem_cons.1 ht with rfl | ht
    · exact passed_compact x
    · exact passed_of_mem_compactItems rest t ht

/-- So are the texts of members, each with its key. -/
theorem passed_of_mem_compactMembers :
    (l : List (String × Json)) → ∀ t ∈ compactMembers l, Passed t.toList
  | [], t, ht => absurd ht List.not_mem_nil
  | (k, x) :: rest, t, ht => by
    rcases List.mem_cons.1 ht with rfl | ht
    · rw [String.toList_append, String.toList_append]
      exact ((passed_quoted k).append (BareText.passed (by decide))).append (passed_compact x)
    · exact passed_of_mem_compactMembers rest t ht

end

/-- What may stand behind a value: nothing, or a text from which nothing is passed over. -/
def Follows (u : List Char) : Prop := beyond .outside 0 u = u

/-- **The text of a value tells where it ends**, if what follows it is in order. -/
theorem compact_append_inj {x y : Json} {u v : List Char} (hu : Follows u) (hv : Follows v)
    (h : (compact x).toList ++ u = (compact y).toList ++ v) : compact x = compact y ∧ u = v := by
  have hbeyond := congrArg (beyond .outside 0) h
  rw [passed_compact x, passed_compact y, hu, hv] at hbeyond
  subst hbeyond
  exact ⟨String.toList_inj.1 (List.append_cancel_right h), rfl⟩

/-! ## Objects -/

/-- The end of the text of an object: the members after the first one. -/
def tailText : List (String × Json) → List Char
  | [] => ['\x7d']
  | (k, x) :: rest => ',' :: ((quoted k).toList ++ ':' :: ((compact x).toList ++ tailText rest))

/-- The members after a value may stand behind it. -/
theorem follows_tailText (l : List (String × Json)) : Follows (tailText l) := by
  cases l <;> rfl

/-- The text of an object is its first member and the end after it. -/
theorem toList_compact_obj_cons (k : String) (x : Json) (rest : List (String × Json)) :
    (compact (.obj ((k, x) :: rest))).toList
      = '\x7b' :: ((quoted k).toList ++ ':' :: ((compact x).toList ++ tailText rest)) := by
  -- The induction takes the first member as a whole, since its text is no member's text any more once
  -- the second one is joined to it.
  have hmembers : ∀ (first : String),
      [','].intercalate (first.toList :: (compactMembers rest).map String.toList) ++ ['\x7d']
        = first.toList ++ tailText rest := by
    induction rest with
    | nil => simp [compactMembers, tailText]
    | cons e rest ih =>
      intro first
      have hrest := ih (quoted e.1 ++ ":" ++ compact e.2)
      rw [compactMembers, List.map_cons, List.intercalate_cons_cons, List.append_assoc,
        List.append_assoc, hrest, tailText]
      simp
  have hobj := hmembers (quoted k ++ ":" ++ compact x)
  simp only [compact, compactMembers, String.toList_append, String.toList_intercalate, List.map_cons,
    List.append_assoc] at hobj ⊢
  simpa using hobj

/-- The members of an object with the texts of their values. -/
def memberTexts (l : List (String × Json)) : List (String × String) :=
  l.map fun e => (e.1, compact e.2)

/-- The end of an object's text determines the texts of the members in it. -/
theorem memberTexts_eq_of_tailText_eq {l l' : List (String × Json)} (h : tailText l = tailText l') :
    memberTexts l = memberTexts l' := by
  induction l generalizing l' with
  | nil =>
    cases l' with
    | nil => rfl
    | cons e' rest' => simp [tailText] at h
  | cons e rest ih =>
    cases l' with
    | nil => simp [tailText] at h
    | cons e' rest' =>
      simp only [tailText, List.cons.injEq, true_and] at h
      obtain ⟨hk, h⟩ := quoted_append_inj h
      obtain ⟨hx, h⟩ := compact_append_inj (follows_tailText rest) (follows_tailText rest')
        (List.cons.inj h).2
      have hrest : memberTexts rest = memberTexts rest' := ih h
      rw [memberTexts, memberTexts, List.map_cons, List.map_cons, hk, hx, ← memberTexts, hrest,
        memberTexts]

/-- Only the empty object has the text of the empty object. -/
theorem compact_obj_cons_ne_nil (e : String × Json) (rest : List (String × Json)) :
    (compact (.obj (e :: rest))).toList ≠ (compact (.obj [])).toList := by
  rw [toList_compact_obj_cons, toList_quoted]
  simp [compact, compactMembers]

/-- **The text of an object determines the texts of its members.** -/
theorem memberTexts_eq_of_compact_eq {l l' : List (String × Json)}
    (h : compact (.obj l) = compact (.obj l')) : memberTexts l = memberTexts l' := by
  have hchars := congrArg String.toList h
  cases l with
  | nil =>
    cases l' with
    | nil => rfl
    | cons e' rest' => exact absurd hchars.symm (compact_obj_cons_ne_nil e' rest')
  | cons e rest =>
    cases l' with
    | nil => exact absurd hchars (compact_obj_cons_ne_nil e rest)
    | cons e' rest' =>
      rw [toList_compact_obj_cons, toList_compact_obj_cons] at hchars
      exact memberTexts_eq_of_tailText_eq (congrArg (List.cons ',') (List.cons.inj hchars).2)

/-- The text of the last value under a key. -/
def lastText (key : String) (l : List (String × Json)) : Option String :=
  (((memberTexts l).filter fun e => e.1 == key).getLast?).map Prod.snd

/-- The text of an object determines the text of the last value under a key. -/
theorem lastText_eq_of_compact_eq {l l' : List (String × Json)}
    (h : compact (.obj l) = compact (.obj l')) (key : String) : lastText key l = lastText key l' := by
  rw [lastText, lastText, memberTexts_eq_of_compact_eq h]

/-- Of a single member the last value is its own. -/
theorem lastText_singleton (key : String) (x : Json) : lastText key [(key, x)] = some (compact x) := by
  simp [lastText, memberTexts]

/-- The last value under a key stands in the second part, if there is one. -/
theorem lastText_append (key : String) (l l' : List (String × Json)) :
    lastText key (l ++ l') = (lastText key l').or (lastText key l) := by
  rw [lastText, memberTexts, List.map_append, List.filter_append, List.getLast?_append,
    Option.map_or]
  rfl

/-- Where no member has a key, no value stands under it. -/
theorem lastText_of_not_mem {key : String} {l : List (String × Json)} (h : key ∉ l.map Prod.fst) :
    lastText key l = none := by
  have hnil : (memberTexts l).filter (fun e => e.1 == key) = [] := by
    rw [List.filter_eq_nil_iff]
    rintro _ he hkey
    obtain ⟨e, hmem, rfl⟩ := List.mem_map.1 he
    exact h (List.mem_map.2 ⟨e, hmem, by simpa using hkey⟩)
  rw [lastText, hnil]
  rfl

/-! ## Flat objects -/

/-- A value is a string or a flag. -/
def IsAtom : Json → Prop
  | .bool _ => True
  | .str _ => True
  | _ => False

/-- Different strings have different texts. -/
theorem quoted_injective : Function.Injective quoted := by
  intro s t h
  exact (quoted_append_inj (congrArg (fun q => String.toList q ++ []) h)).1

/-- Strings and flags with one text are one. -/
theorem eq_of_compact_eq {x y : Json} (hx : x.IsAtom) (hy : y.IsAtom) (h : compact x = compact y) :
    x = y := by
  have hquoted : ∀ s b, quoted s ≠ compact (.bool b) := by
    intro s b heq
    have hchars := congrArg String.toList heq
    rw [toList_quoted] at hchars
    cases b <;> simp [compact] at hchars
  cases x with
  | str s =>
    cases y with
    | str t => exact congrArg Json.str (quoted_injective (by simpa only [compact] using h))
    | bool b => exact absurd (by simpa only [compact] using h) (hquoted s b)
    | _ => exact hy.elim
  | bool b =>
    cases y with
    | str t => exact absurd h.symm (by simpa only [compact] using hquoted t b)
    | bool b' => cases b <;> cases b' <;> simp_all [compact]
    | _ => exact hy.elim
  | _ => exact hx.elim

/-- Strings and flags under keys are determined by their texts. -/
theorem eq_of_memberTexts_eq {l l' : List (String × Json)} (hl : ∀ e ∈ l, e.2.IsAtom)
    (hl' : ∀ e ∈ l', e.2.IsAtom) (h : memberTexts l = memberTexts l') : l = l' := by
  induction l generalizing l' with
  | nil => exact (List.map_eq_nil_iff.1 h.symm).symm
  | cons e rest ih =>
    obtain ⟨e', rest', rfl, he, hrest⟩ := List.map_eq_cons_iff.1 h.symm
    obtain ⟨hk, hx⟩ := Prod.mk.inj he
    have hvalue := eq_of_compact_eq (hl' e' List.mem_cons_self) (hl e List.mem_cons_self) hx
    rw [Prod.ext hk hvalue, ih (fun e he => hl e (List.mem_cons_of_mem _ he))
      (fun e he => hl' e (List.mem_cons_of_mem _ he)) hrest.symm]

/-- **The text of a flat object determines it.** -/
theorem compact_inj_of_flat {l l' : List (String × Json)} (hl : ∀ e ∈ l, e.2.IsAtom)
    (hl' : ∀ e ∈ l', e.2.IsAtom) (h : compact (.obj l) = compact (.obj l')) : l = l' :=
  eq_of_memberTexts_eq hl hl' (memberTexts_eq_of_compact_eq h)

end Json

end Swagger

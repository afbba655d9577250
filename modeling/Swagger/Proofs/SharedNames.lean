import Swagger.Proofs.JsonText
import Swagger.Proofs.ObjectRoundTrips
import Swagger.Proofs.Parameters
import Swagger.Proofs.SharedPointers

/-! # What shared names depend on
Shared names are given in the order of texts, and each looks at the names given before it. Yet they
depend on nothing but the set of texts: a text tells the name of its parameter, so two documents with
the same texts go through the same steps. Only a vendor extension could pass for the name of a parameter
without one, and there is none in what was read or built. Where moreover no two texts of parameters of
one name have one digest, no step finds its name taken, and every name depends on its own text alone.

* `Parameter.NamedByField` — no extension passes for the name; `Parameter.baseName_eq_of_text_eq` — what
  a text then says about the name of its parameter.
* `SharedParameters.Alike` — two tables with the same names, kept by naming parameters with one text.
* `Document.Distinguished` — digests tell the texts of a document apart.
* `Document.NamedByTexts` — what the names of documents have to do with the texts in them.
* `Document.sharedParameters_names` — the names of any two documents; `sharedParameters_names_renamed` —
  why the two conditions are there. -/

namespace Swagger

/-! ## The name in a text -/

namespace Json

/-- Where no row has a name, no member with it is written. -/
theorem lastText_present_of_not_mem {key : String} {table : List (String × Option Json)}
    (h : key ∉ table.map Prod.fst) : lastText key (Members.present table) = none :=
  lastText_of_not_mem fun hmem => h ((Members.keys_present_sublist table).subset hmem)

end Json

namespace Parameter

/-- A parameter without a name has no extension called `name` either. -/
def NamedByField (p : Parameter) : Prop := p.name = "" → "name" ∉ p.extensions.keys

instance (p : Parameter) : Decidable p.NamedByField :=
  inferInstanceAs (Decidable (_ → _))

/-- The last member called `name` holds the name, if there is one. -/
theorem lastText_name {p : Parameter} (h : p.NamedByField) :
    Json.lastText "name" (Json.Members.record p.leadingFields p.extensions p.trailingFields)
      = if p.name = "" then none else some (Json.quoted p.name) := by
  -- the row of the name, between those of other fields
  have hrows : p.trailingFields = p.trailingFields.take 1 ++
      ([("name", Json.Members.leftOutIf p.name.isEmpty (.str p.name))] ++
        p.trailingFields.drop 2) := rfl
  have hfront : Json.lastText "name" (Json.Members.present p.leadingFields) = none :=
    Json.lastText_present_of_not_mem (by simp [leadingFields])
  have hfirst : Json.lastText "name" (Json.Members.present (p.trailingFields.take 1)) = none :=
    Json.lastText_present_of_not_mem (by simp [trailingFields])
  have hlast : Json.lastText "name" (Json.Members.present (p.trailingFields.drop 2)) = none :=
    Json.lastText_present_of_not_mem (by simp [trailingFields])
  rw [Json.Members.record, Json.lastText_append, Json.lastText_append, hfront, hrows,
    Json.Members.present_append, Json.Members.present_append, Json.lastText_append,
    Json.lastText_append, hfirst, hlast, Json.Members.present_leftOutIf, Option.none_or,
    Option.or_none, Option.or_none]
  by_cases hname : p.name = ""
  · have hx : Json.lastText "name" p.extensions.entries = none :=
      Json.lastText_of_not_mem (h hname)
    rw [hx, if_pos hname, hname, Option.or_none]
    rfl
  · have hempty : p.name.isEmpty = false := by simpa using hname
    rw [if_neg hname, hempty, if_neg Bool.false_ne_true, Json.lastText_singleton, Option.some_or,
      Json.compact]

/-- **The text of a parameter tells its name.** -/
theorem name_eq_of_text_eq {p q : Parameter} (hp : p.NamedByField) (hq : q.NamedByField)
    (h : p.text = q.text) : p.name = q.name := by
  rw [text, text, toJson_eq, toJson_eq] at h
  have hlast := Json.lastText_eq_of_compact_eq h "name"
  rw [lastText_name hp, lastText_name hq] at hlast
  split_ifs at hlast with hpname hqname
  · rw [hpname, hqname]
  · exact Json.quoted_injective (Option.some.inj hlast)

/-- The text of a parameter tells how its shared name begins. -/
theorem baseName_eq_of_text_eq {p q : Parameter} (hp : p.NamedByField) (hq : q.NamedByField)
    (h : p.text = q.text) : p.baseName = q.baseName := by
  rw [baseName, baseName, name_eq_of_text_eq hp hq h]

/-- What is read again as it was has its name in the field. -/
theorem Sound.namedByField {p : Parameter} (h : p.Sound) : p.NamedByField := by
  intro _ hmem
  obtain ⟨e, he, hname⟩ := List.mem_map.1 hmem
  exact h.extensions.apart e he (hname ▸ by decide)

/-- A simple parameter has no extensions that could pass for its name. -/
theorem IsSimple.namedByField {p : Parameter} (h : p.IsSimple) : p.NamedByField := by
  intro _
  rw [h]
  exact List.not_mem_nil

end Parameter

/-! ## Two documents with the same texts -/

namespace SharedParameters

/-- Which name is picked depends on nothing but the names that are taken. -/
theorem freeName_congr {taken taken' : Dict String Parameter} (h : taken.keys = taken'.keys)
    (base hash : String) : freeName base hash taken = freeName base hash taken' := by
  have hcontains : ∀ name, taken.contains name = taken'.contains name := fun name => by
    rw [Bool.eq_iff_iff, Dict.contains_iff_mem_keys, Dict.contains_iff_mem_keys, h]
  have hlength : taken.entries.length = taken'.entries.length := by
    simpa only [Dict.keys, List.length_map] using congrArg List.length h
  simp only [freeName, hcontains, hlength]

/-- Two tables give the same names, to parameters with the same texts. -/
structure Alike (s s' : SharedParameters) : Prop where
  /-- Every text has the same name. -/
  names_eq : s.names = s'.names
  /-- Under every name stand parameters with one text. -/
  texts_eq : s.parameters.map Parameter.text = s'.parameters.map Parameter.text

/-- Two declarations of one parameter: they have one text, and their names begin alike. -/
def SameShare (e e' : String × Parameter) : Prop :=
  e.1 = e'.1 ∧ e.2.text = e'.2.text ∧ e.2.baseName = e'.2.baseName

/-- Naming one parameter in both tables keeps them alike. -/
theorem Alike.add {s s' : SharedParameters} (h : s.Alike s') {e e' : String × Parameter}
    (he : SameShare e e') : (s.add e.1 e.2).Alike (s'.add e'.1 e'.2) := by
  obtain ⟨hkey, htext, hbase⟩ := he
  have hkeys : s.parameters.keys = s'.parameters.keys := by
    rw [← Dict.keys_map Parameter.text, h.texts_eq, Dict.keys_map]
  have hname : freeName e.2.baseName (Digest.ofText e.1) s.parameters
      = freeName e'.2.baseName (Digest.ofText e'.1) s'.parameters := by
    rw [hkey, hbase, freeName_congr hkeys]
  constructor
  · show s.names.insert _ _ = s'.names.insert _ _
    rw [hname, hkey, h.names_eq]
  · show (s.parameters.insert _ _).map _ = (s'.parameters.insert _ _).map _
    rw [Dict.map_insert, Dict.map_insert, hname, htext, h.texts_eq]

/-- So does naming several. -/
theorem Alike.foldl_add {s s' : SharedParameters} (h : s.Alike s')
    {entries entries' : List (String × Parameter)} (he : List.Forall₂ SameShare entries entries') :
    (entries.foldl (fun s e => s.add e.1 e.2) s).Alike
      (entries'.foldl (fun s e => s.add e.1 e.2) s') := by
  induction he generalizing s s' with
  | nil => exact h
  | cons hfirst hrest ih => exact ih (h.add hfirst)

end SharedParameters

namespace Document

/-- The shareable parameters of a document have their names in the field. -/
def NamedByField (d : Document) : Prop := ∀ p ∈ d.shareable, p.NamedByField

instance (d : Document) : Decidable d.NamedByField :=
  inferInstanceAs (Decidable (∀ p ∈ d.shareable, p.NamedByField))

/-- A text stands at a shareable parameter of a document. -/
def HasText (d : Document) (text : String) : Prop := ∃ p ∈ d.shareable, p.text = text

variable {d d' : Document}

/-- Where the builder made all parameters of a document, they have their names in the field. -/
theorem namedByField_of_isBuilt (hd : ∀ s p, d.parameterAt? s = some p → p.IsBuilt) :
    d.NamedByField := by
  intro p hp
  obtain ⟨⟨s, hs⟩, hinline⟩ := (d.mem_shareable_iff p).1 hp
  exact ((hd s p hs).isSimple hinline).namedByField

/-- So does a document that was read. -/
theorem namedByField_of_read
    (hd : ∀ p ∈ d.shareable, ∃ t : Json, t.NumbersFit ∧ Parameter.ofNode? (.ofJson t) = some p) :
    d.NamedByField := by
  intro p hp
  obtain ⟨t, ht, hread⟩ := hd p hp
  exact (Parameter.roundTrips.sound t ht p hread).namedByField

/-- Documents with the same texts call the parameters with these texts alike. -/
theorem map_baseName_shareableByText (h : d.NamedByField) (h' : d'.NamedByField)
    (htexts : ∀ text, d.HasText text ↔ d'.HasText text) :
    d.shareableByText.map Parameter.baseName = d'.shareableByText.map Parameter.baseName := by
  have hsorted : ∀ d : Document, (d.shareableByText.map Parameter.baseName).Sorted := fun d => by
    rw [Dict.sorted_iff_pairwise_keys, Dict.keys_map, ← Dict.sorted_iff_pairwise_keys]
    exact d.sorted_shareableByText
  apply Dict.Sorted.ext (hsorted d) (hsorted d')
  intro text
  rw [Dict.find?_map, Dict.find?_map]
  -- a text stands under itself in both documents or in neither
  have hkeys : text ∈ d.shareableByText.keys ↔ text ∈ d'.shareableByText.keys := by
    rw [mem_keys_shareableByText, mem_keys_shareableByText]
    exact htexts text
  by_cases hmem : text ∈ d.shareableByText.keys
  · obtain ⟨p, hp⟩ := (Dict.mem_keys_iff _ _).1 hmem
    obtain ⟨q, hq⟩ := (Dict.mem_keys_iff _ _).1 (hkeys.1 hmem)
    have hpmem := Dict.mem_entries_of_find? hp
    have hqmem := Dict.mem_entries_of_find? hq
    have htext : p.text = q.text :=
      (text_of_mem_shareableByText hpmem).trans (text_of_mem_shareableByText hqmem).symm
    rw [hp, hq, Option.map_some, Option.map_some, Parameter.baseName_eq_of_text_eq
      (h p (mem_shareable_of_mem_shareableByText hpmem))
      (h' q (mem_shareable_of_mem_shareableByText hqmem)) htext]
  · rw [(Dict.find?_eq_none_iff _ _).2 hmem, (Dict.find?_eq_none_iff _ _).2 (mt hkeys.2 hmem)]

/-- Documents with the same texts share parameters with the same texts, whose names begin alike. -/
theorem forall₂_sameShare (h : d.NamedByField) (h' : d'.NamedByField)
    (htexts : ∀ text, d.HasText text ↔ d'.HasText text) :
    List.Forall₂ SharedParameters.SameShare d.shareableByText.entries
      d'.shareableByText.entries := by
  have hmap := congrArg Dict.entries (map_baseName_shareableByText h h' htexts)
  simp only [Dict.map] at hmap
  rw [← List.forall₂_eq_eq_eq, List.forall₂_map_left_iff, List.forall₂_map_right_iff] at hmap
  rw [List.forall₂_iff_zip] at hmap ⊢
  refine ⟨hmap.1, fun {e e'} he => ?_⟩
  obtain ⟨hkey, hbase⟩ := Prod.mk.inj (hmap.2 he)
  have hmem := text_of_mem_shareableByText (List.of_mem_zip he).1
  have hmem' := text_of_mem_shareableByText (List.of_mem_zip he).2
  exact ⟨hkey, hmem.trans (hkey.trans hmem'.symm), hbase⟩

/-- **Names depend on the set of texts.** -/
theorem alike_sharedParameters (h : d.NamedByField) (h' : d'.NamedByField)
    (htexts : ∀ text, d.HasText text ↔ d'.HasText text) :
    d.sharedParameters.Alike d'.sharedParameters :=
  SharedParameters.Alike.foldl_add ⟨rfl, rfl⟩ (forall₂_sameShare h h' htexts)

end Document

/-! ## Hashed names -/

namespace Digest

/-- A digest has eight characters. -/
theorem length_ofText (text : String) : (ofText text).toList.length = 8 := by
  rw [ofText, String.toList_ofList, List.length_map, List.length_range]

/-- A digest needs no escape in a path. -/
theorem urlSafe_of_mem {text : String} {c : Char} (h : c ∈ (ofText text).toList) :
    c.isAlphanum = true ∨ c = '-' ∨ c = '_' := by
  have hsafe : (alphabet.all fun c => c.isAlphanum || c == '-' || c == '_') = true := by decide
  simpa [or_assoc] using List.all_eq_true.1 hsafe c (mem_alphabet h)

end Digest

namespace Parameter

/-- The name that tells the digest of a parameter. -/
def hashedName (p : Parameter) : String := p.baseName ++ "-" ++ Digest.ofText p.text

/-- A hyphen in the name of a parameter does no harm: all digests have one length. -/
theorem hashedName_eq_iff {p q : Parameter} : p.hashedName = q.hashedName ↔
    p.baseName = q.baseName ∧ Digest.ofText p.text = Digest.ofText q.text := by
  constructor
  · intro h
    have hlist := congrArg String.toList h
    simp only [hashedName, String.toList_append] at hlist
    obtain ⟨hfront, hdigest⟩ := List.append_inj' hlist
      ((Digest.length_ofText _).trans (Digest.length_ofText _).symm)
    exact ⟨String.toList_inj.1 (List.append_cancel_right hfront), String.toList_inj.1 hdigest⟩
  · rintro ⟨hbase, hdigest⟩
    rw [hashedName, hashedName, hbase, hdigest]

end Parameter

namespace SharedParameters

/-- Every parameter has its hashed name. -/
def Hashed (s : SharedParameters) : Prop :=
  ∀ ⦃name p⦄, s.parameters.find? name = some p → name = p.hashedName

/-- In a table without names every name is hashed. -/
theorem hashed_empty : Hashed {} := fun _ _ h => by simp at h

/-- A parameter with a hashed name of its own gets it. -/
theorem Hashed.add {s : SharedParameters} (hs : s.Hashed) {p : Parameter}
    (hnew : ∀ name q, s.parameters.find? name = some q → q.hashedName ≠ p.hashedName) :
    (s.add p.text p).Hashed := by
  have hfree : s.parameters.contains p.hashedName = false := by
    rw [Dict.contains_eq_false_iff, Option.eq_none_iff_forall_ne_some]
    exact fun q hq => hnew _ q hq (hs hq).symm
  have hname : freeName p.baseName (Digest.ofText p.text) s.parameters = p.hashedName := by
    rcases freeName_cases p.baseName (Digest.ofText p.text) s.parameters with ⟨-, h⟩ | ⟨htaken, -⟩
    · exact h
    · exact absurd (hfree.symm.trans htaken) Bool.false_ne_true
  intro name q hq
  simp only [SharedParameters.add, hname, Dict.find?_insert] at hq
  split_ifs at hq with hn
  · rw [hn, Option.some.inj hq]
  · exact hs hq

/-- So do several whose hashed names are distinct. -/
theorem Hashed.foldl_add {s : SharedParameters} (hs : s.Hashed)
    {entries : List (String × Parameter)} (htext : ∀ e ∈ entries, e.2.text = e.1)
    (hdistinct : entries.Pairwise fun e e' => e.2.hashedName ≠ e'.2.hashedName)
    (hnew : ∀ e ∈ entries, ∀ name q, s.parameters.find? name = some q →
      q.hashedName ≠ e.2.hashedName) :
    (entries.foldl (fun s e => s.add e.1 e.2) s).Hashed := by
  induction entries generalizing s with
  | nil => exact hs
  | cons e rest ih =>
    obtain ⟨text, p⟩ := e
    obtain rfl : p.text = text := htext (text, p) List.mem_cons_self
    rw [List.pairwise_cons] at hdistinct
    have hadd := hs.add (hnew (p.text, p) List.mem_cons_self)
    apply ih hadd (fun e he => htext e (List.mem_cons_of_mem _ he)) hdistinct.2
    intro e he name q hq
    simp only [SharedParameters.add, Dict.find?_insert] at hq
    split_ifs at hq
    · -- what was named just now
      obtain rfl : p = q := Option.some.inj hq
      exact hdistinct.1 e he
    · exact hnew e (List.mem_cons_of_mem _ he) name q hq

end SharedParameters

namespace Document

/-- Digests tell the texts of a document apart, as far as they have to: of shareable parameters whose
names begin alike, those with one digest have one text. -/
def Distinguished (d : Document) : Prop :=
  ∀ p ∈ d.shareable, ∀ q ∈ d.shareable, p.baseName = q.baseName →
    Digest.ofText p.text = Digest.ofText q.text → p.text = q.text

instance (d : Document) : Decidable d.Distinguished :=
  inferInstanceAs (Decidable (∀ p ∈ d.shareable, ∀ q ∈ d.shareable, p.baseName = q.baseName →
    Digest.ofText p.text = Digest.ofText q.text → p.text = q.text))

variable {d d' : Document}

/-- Where digests tell the texts apart, all names are hashed ones. -/
theorem Distinguished.hashed (hd : d.Distinguished) : d.sharedParameters.Hashed := by
  refine SharedParameters.hashed_empty.foldl_add (fun e he => text_of_mem_shareableByText he) ?_
    fun _ _ _ _ h => by simp at h
  refine d.sorted_shareableByText.imp_of_mem fun {e e'} he he' hlt hname => ?_
  obtain ⟨hbase, hdigest⟩ := Parameter.hashedName_eq_iff.1 hname
  have htext := hd e.2 (mem_shareable_of_mem_shareableByText he) e'.2
    (mem_shareable_of_mem_shareableByText he') hbase hdigest
  -- the texts are in order, so they cannot be one
  rw [text_of_mem_shareableByText he, text_of_mem_shareableByText he'] at htext
  rw [htext, Std.ReflOrd.compare_self] at hlt
  exact Ordering.noConfusion hlt

/-- **A name depends on its own parameter.** Where digests tell the texts apart, every shareable
parameter is shared under its hashed name. -/
theorem Distinguished.find?_names (hd : d.Distinguished) (h : d.NamedByField) {p : Parameter}
    (hp : p ∈ d.shareable) : d.sharedParameters.names.find? p.text = some p.hashedName := by
  obtain ⟨hconsistent, hkeys⟩ := d.sharedParameters_consistent
  obtain ⟨name, hname⟩ := (Dict.mem_keys_iff _ _).1 ((hkeys p.text).2 ⟨p, hp, rfl⟩)
  obtain ⟨q, hq, htext⟩ := hconsistent.parameter_of_name hname
  -- the parameter that is shared may be another one with the same text
  have hbase := Parameter.baseName_eq_of_text_eq (h q (mem_shareable_of_shared hq)) (h p hp) htext
  rw [hname, hd.hashed hq, Parameter.hashedName_eq_iff.2 ⟨hbase, congrArg Digest.ofText htext⟩]

/-- A document with one shareable parameter has its text and no other. -/
theorem hasText_iff_of_shareable {p : Parameter} (h : d.shareable = [p]) (text : String) :
    d.HasText text ↔ p.text = text := by
  simp only [HasText, h, List.mem_singleton, exists_eq_left]

/-- What the names that two documents give have to do with the texts in them. -/
structure NamedByTexts (d d' : Document) : Prop where
  /-- The texts that have a name are those of the shareable parameters. -/
  named_iff : ∀ text, (∃ name, d.sharedParameters.names.find? text = some name) ↔ d.HasText text
  /-- Distinct texts have distinct names. -/
  injective : ∀ {text text' name}, d.sharedParameters.names.find? text = some name →
    d.sharedParameters.names.find? text' = some name → text = text'
  /-- Where both have the same texts, both give the same names, to parameters with the same texts. -/
  of_same_texts : d.NamedByField → d'.NamedByField → (∀ text, d.HasText text ↔ d'.HasText text) →
    d.sharedParameters.names = d'.sharedParameters.names ∧
      d.sharedParameters.parameters.map Parameter.text
        = d'.sharedParameters.parameters.map Parameter.text
  /-- Where digests tell the texts apart, every shared parameter has its hashed name. -/
  shared_hashed : d.Distinguished → ∀ name p, d.sharedParameters.parameters.find? name = some p →
    name = p.baseName ++ "-" ++ Digest.ofText p.text
  /-- So has every parameter that is replaced by one, if its name is in the field. -/
  hashed : d.Distinguished → d.NamedByField → ∀ p ∈ d.shareable,
    d.sharedParameters.names.find? p.text = some (p.baseName ++ "-" ++ Digest.ofText p.text)
  /-- So a name stays the same as long as this holds, whatever other parameters come or go. -/
  kept : d.Distinguished → d'.Distinguished → d.NamedByField → d'.NamedByField →
    ∀ text, d.HasText text → d'.HasText text →
      d.sharedParameters.names.find? text = d'.sharedParameters.names.find? text
  /-- A digest has eight characters, which need no escape in a path. -/
  digest : ∀ text, (Digest.ofText text).toList.length = 8 ∧
    ∀ c ∈ (Digest.ofText text).toList, c.isAlphanum = true ∨ c = '-' ∨ c = '_'

/-- **Shared names are told by the texts.** Texts and names belong together one to one. How often, where
and in which order parameters occur does not matter, and where digests tell their texts apart, neither do
the other parameters. For the last two no vendor extension may pass for the name of a parameter without
one; none does in what was read (`namedByField_of_read`) or built (`namedByField_of_isBuilt`). -/
theorem sharedParameters_names (d d' : Document) : d.NamedByTexts d' where
  named_iff := by
    intro text
    rw [← Dict.mem_keys_iff]
    exact d.sharedParameters_consistent.2 text
  injective := by
    intro text text' name htext htext'
    obtain ⟨p, hp, rfl⟩ := d.sharedParameters_consistent.1.parameter_of_name htext
    obtain ⟨q, hq, rfl⟩ := d.sharedParameters_consistent.1.parameter_of_name htext'
    rw [Option.some.inj (hp.symm.trans hq)]
  of_same_texts := by
    intro h h' htexts
    have halike := alike_sharedParameters h h' htexts
    exact ⟨halike.names_eq, halike.texts_eq⟩
  shared_hashed := fun hd _ _ hp => hd.hashed hp
  hashed := fun hd h _ hp => hd.find?_names h hp
  kept := by
    rintro hd hd' h h' _ ⟨p, hp, rfl⟩ ⟨q, hq, htext⟩
    have hbase := Parameter.baseName_eq_of_text_eq (h' q hq) (h p hp) htext
    rw [hd.find?_names h hp, ← htext, hd'.find?_names h' hq,
      Parameter.hashedName_eq_iff.2 ⟨hbase, congrArg Digest.ofText htext⟩]
  digest := fun text => ⟨Digest.length_ofText text, fun _ hc => Digest.urlSafe_of_mem hc⟩

/-- The parameters of `fileListing` on another path, in another order, one of them twice. -/
def directoryListing : Document where
  paths := Dict.ofList [("/directories", {
    get := some { id := "listDirectories", parameters := [.limit, .directory] }
    parameters := [.limit] })]

/-- A document that has some parameters and nothing else of interest. -/
def listingWith (ps : List Parameter) : Document where
  paths := Dict.ofList [("/files", { get := some { id := "listFiles", parameters := ps } })]

/-- The limit has one name in all three documents, which its digest tells: it does not matter in which
order the parameters stand, nor whether the other one is there. -/
theorem sharedParameters_names_listings :
    fileListing.NamedByField ∧ directoryListing.NamedByField ∧
      fileListing.sharedParameters.names = directoryListing.sharedParameters.names ∧
      (listingWith [.limit]).sharedParameters.names.find? Parameter.limit.text = some "limit-CDqMkbla" := by
  have h : fileListing.NamedByField := by decide +kernel
  have h' : directoryListing.NamedByField := by decide +kernel
  have hshareable : fileListing.shareable = [.directory, .limit] := by decide +kernel
  have hshareable' : directoryListing.shareable = [.limit, .directory, .limit] := by decide +kernel
  have hdistinguished : fileListing.Distinguished := by decide +kernel
  have hmem : Parameter.limit ∈ fileListing.shareable := by rw [hshareable]; simp
  have hmem' : Parameter.limit ∈ (listingWith [.limit]).shareable := by decide +kernel
  have hname := (sharedParameters_names fileListing fileListing).hashed hdistinguished h .limit hmem
  have hkept := (sharedParameters_names fileListing (listingWith [.limit])).kept hdistinguished
    (by decide +kernel) h (by decide +kernel) Parameter.limit.text ⟨_, hmem, rfl⟩ ⟨_, hmem', rfl⟩
  refine ⟨h, h', ((sharedParameters_names fileListing directoryListing).of_same_texts h h'
    fun text => ?_).1, ?_⟩
  · simp only [HasText, hshareable, hshareable', List.mem_cons, List.not_mem_nil, or_false]
    constructor
    · rintro ⟨p, hp, htext⟩
      exact ⟨p, hp.symm.imp_right Or.inl, htext⟩
    · rintro ⟨p, hp, htext⟩
      exact ⟨p, hp.elim Or.inr id, htext⟩
  · rw [← hkept, hname]
    decide +kernel

/-- A limit, with what is said about it. -/
def describedLimit (description : String) : Parameter :=
  { description := description, name := "limit", location := "query" }

/-- A parameter without a name whose extension passes for one. -/
def limitByExtension : Parameter :=
  { extensions := .ofList [("name", .str "limit")], location := "query" }

/-- Names are not told by the texts where an extension passes for a name: then one text has two names.
And even if digests tell the texts of a document apart, one more parameter can change a name: if it has
the same digest and comes first, the other one is counted. -/
theorem sharedParameters_names_renamed :
    (¬∀ d d' : Document, (∀ text, d.HasText text ↔ d'.HasText text) →
      d.sharedParameters.names = d'.sharedParameters.names) ∧
    ¬∀ d d' : Document, d.Distinguished → ∀ text, d.HasText text → d'.HasText text →
      d.sharedParameters.names.find? text = d'.sharedParameters.names.find? text := by
  constructor
  · intro hall
    have hfield : (listingWith [describedLimit ""]).shareable = [describedLimit ""] := by decide +kernel
    have hextension : (listingWith [limitByExtension]).shareable = [limitByExtension] := by
      decide +kernel
    have htext : (describedLimit "").text = limitByExtension.text := by decide +kernel
    have hnames := hall (listingWith [describedLimit ""]) (listingWith [limitByExtension]) fun text => by
      rw [hasText_iff_of_shareable hfield, hasText_iff_of_shareable hextension, htext]
    exact absurd hnames (by decide +kernel)
  · intro hall
    have hkept := hall (listingWith [describedLimit "Up to 22303351"])
      (listingWith [describedLimit "Up to 22303351", describedLimit "Up to 11011355"]) (by decide +kernel)
      (describedLimit "Up to 22303351").text ⟨describedLimit "Up to 22303351", by decide +kernel, rfl⟩
      ⟨describedLimit "Up to 22303351", by decide +kernel, rfl⟩
    exact absurd hkept (by decide +kernel)

end Document

end Swagger

import Swagger.Proofs.Fields

/-! # Reading undoes writing
A type that is written and read again comes back as it was, provided that it is *sound*: what the two
ways cannot tell apart is excluded. Extensions must not stand under the names of fields, a free value in
a place for an optional one must not be null, and doubles have to be finite. Moreover the parts are what
the types of a program make sure of: dictionaries are in the order of their keys, natural numbers have
sixty-four bits. Everything that is read from a tree is sound, so that writing and reading once more does
not change it.

* `RoundTrips` — what is proved of each type.
* `RoundTrips.of_record`, `RoundTrips.of_extensible` — it is enough to look at the fields.
* `Contact.roundTrips`, `License.roundTrips`, `ExternalDocs.roundTrips`, `Tag.roundTrips` — the types
  without extensions.
* `Info.roundTrips`, `Header.roundTrips`, `SecurityScheme.roundTrips` — types with extensions. -/

namespace Swagger

open Json.Members

section Generic

variable {α : Type}

/-- Reading undoes writing for the values that satisfy a condition, and only such values are read. -/
structure RoundTrips (Sound : α → Prop) (write : α → Json) (read : Node → Option α) : Prop where
  /-- No object that is written repeats a key, and all numbers in it are those of a tree. -/
  wellFormed : ∀ a, Sound a → (write a).WellFormed
  /-- What was written is read again. -/
  reads : ∀ a, Sound a → read (.ofJson (write a)) = some a
  /-- Whatever is read from a tree satisfies the condition. -/
  sound : ∀ t : Json, t.NumbersFit → ∀ a, read (.ofJson t) = some a → Sound a
  /-- What was read from a tree is not changed by being written and read once more. -/
  again : ∀ t : Json, t.NumbersFit → ∀ a, read (.ofJson t) = some a → read (.ofJson (write a)) = some a

namespace RoundTrips

variable {Sound : α → Prop} {write : α → Json} {read : Node → Option α} {names : List String}

/-- Where all that is read is sound, writing and reading once more changes nothing. -/
theorem of_reads (wellFormed : ∀ a, Sound a → (write a).WellFormed)
    (reads : ∀ a, Sound a → read (.ofJson (write a)) = some a) (sound : Node.Yields read Sound) :
    RoundTrips Sound write read :=
  ⟨wellFormed, reads, sound, fun t ht a h => reads a (sound t ht a h)⟩

/-- An optional value, never written as null, is read as it was. -/
theorem optional (h : RoundTrips Sound write read) (hnull : ∀ a, write a ≠ .null) {f : Fields}
    {k : String} {o : Option α} (hget : f.get? k = (o.map write).map .ofJson) (ho : ∀ a ∈ o, Sound a) :
    f.optional k read = some o :=
  Fields.optional_of_written hget fun a ha => ⟨hnull a, h.reads a (ho a ha)⟩

/-- A record without extensions, of which only the fields have to be looked at. -/
theorem of_record {fields : α → List (String × Option Json)} {build : Fields → Option α}
    (hread : ∀ n, read n = n.record? names 0 >>= build)
    (hwrite : ∀ a, write a = .obj (present (fields a)))
    (hnames : ∀ a, (fields a).map Prod.fst = names) (hn : names.Nodup)
    (hvalues : ∀ a, Sound a → ∀ e ∈ fields a, WellFormedValue e.2)
    (hbuild : ∀ a, Sound a → ∀ f : Fields, (∀ e ∈ fields a, f.get? e.1 = e.2.map .ofJson) →
      build f = some a)
    (hsound : ∀ f : Fields, f.OfTree → ∀ a, build f = some a → Sound a) :
    RoundTrips Sound write read := by
  refine of_reads (fun a ha => ?_) (fun a ha => ?_) fun t ht a h => ?_
  · rw [hwrite]
    exact Json.wellFormed_present hn (hnames a) (hvalues a ha)
  · rw [hread, hwrite, Node.record?_present hn (hnames a), Option.bind_eq_bind, Option.bind_some]
    exact hbuild a ha _ fun e he => Fields.get?_ofMembers_present (hnames a ▸ hn) he
  · rw [hread, Option.bind_eq_bind, Option.bind_eq_some_iff] at h
    obtain ⟨f, hf, h⟩ := h
    exact hsound f (Node.ofTree_of_record? ht hf) a h

/-- A record with extensions, of which only the fields have to be looked at. -/
theorem of_extensible {front back : α → List (String × Option Json)} {extensions : α → Extensions}
    {build : Fields × Extensions → Option α}
    (hread : ∀ n, read n = n.extensible? names >>= build)
    (hwrite : ∀ a, write a = .obj (record (front a) (extensions a) (back a)))
    (hnames : ∀ a, (front a ++ back a).map Prod.fst = names) (hn : names.Nodup)
    (hextensions : ∀ a, Sound a → (extensions a).Sound names)
    (hvalues : ∀ a, Sound a → ∀ e ∈ front a ++ back a, WellFormedValue e.2)
    (hbuild : ∀ a, Sound a → ∀ f : Fields,
      (∀ e ∈ front a ++ back a, f.get? e.1 = e.2.map .ofJson) → build (f, extensions a) = some a)
    (hsound : ∀ (f : Fields) (x : Extensions), f.OfTree → x.Sound names → ∀ a,
      build (f, x) = some a → Sound a) :
    RoundTrips Sound write read := by
  refine of_reads (fun a ha => ?_) (fun a ha => ?_) fun t ht a h => ?_
  · rw [hwrite]
    exact Json.wellFormed_record hn (hnames a) (hextensions a ha) (hvalues a ha)
  · rw [hread, hwrite, Node.extensible?_record hn (hnames a) (hextensions a ha), Option.bind_eq_bind,
      Option.bind_some]
    exact hbuild a ha _ fun e he => Fields.get?_ofMembers_present (hnames a ▸ hn) he
  · rw [hread, Option.bind_eq_bind, Option.bind_eq_some_iff] at h
    obtain ⟨p, hp, h⟩ := h
    obtain ⟨hf, hx⟩ := Node.sound_of_extensible? ht hp
    exact hsound p.1 p.2 hf hx a h

end RoundTrips

end Generic

/-! ## Types without extensions -/

namespace Contact

/-- The fields with their values. -/
def fields (c : Contact) : List (String × Option Json) :=
  [("name", leftOutIf c.name.isEmpty (.str c.name)), ("url", leftOutIf c.url.isEmpty (.str c.url)),
    ("email", leftOutIf c.email.isEmpty (.str c.email))]

/-- A contact is written as a table of its fields. -/
theorem toJson_eq (c : Contact) : c.toJson = .obj (present c.fields) := by
  simp only [toJson, text_eq_present, ← present_append]
  rfl

/-- **Contacts are read as they were written.** -/
theorem roundTrips : RoundTrips (fun _ => True) toJson ofNode? := by
  refine .of_record (fun _ => rfl) toJson_eq (fun _ => rfl) (by decide) ?_ ?_ fun _ _ _ _ => trivial
  · intro c _
    simp [fields]
  · intro c _ f hf
    simp only [fields, List.forall_mem_cons] at hf
    obtain ⟨hname, hurl, hemail, -⟩ := hf
    simp only [Fields.string_of_written hname, Fields.string_of_written hurl,
      Fields.string_of_written hemail]
    rfl

end Contact

namespace License

/-- The fields with their values. -/
def fields (l : License) : List (String × Option Json) :=
  [("name", some (.str l.name)), ("url", leftOutIf l.url.isEmpty (.str l.url))]

/-- A license is written as a table of its fields. -/
theorem toJson_eq (l : License) : l.toJson = .obj (present l.fields) := by
  simp only [toJson, always_eq_present, text_eq_present, ← present_append]
  rfl

/-- **Licenses are read as they were written.** -/
theorem roundTrips : RoundTrips (fun _ => True) toJson ofNode? := by
  refine .of_record (fun _ => rfl) toJson_eq (fun _ => rfl) (by decide) ?_ ?_ fun _ _ _ _ => trivial
  · intro l _
    simp [fields]
  · intro l _ f hf
    simp only [fields, List.forall_mem_cons] at hf
    obtain ⟨hname, hurl, -⟩ := hf
    simp only [Fields.string_of_always hname, Fields.string_of_written hurl]
    rfl

end License

namespace ExternalDocs

/-- The fields with their values. -/
def fields (d : ExternalDocs) : List (String × Option Json) :=
  [("description", leftOutIf d.description.isEmpty (.str d.description)), ("url", some (.str d.url))]

/-- A pointer to documentation elsewhere is written as a table of its fields. -/
theorem toJson_eq (d : ExternalDocs) : d.toJson = .obj (present d.fields) := by
  simp only [toJson, always_eq_present, text_eq_present, ← present_append]
  rfl

/-- **Pointers to documentation elsewhere are read as they were written.** -/
theorem roundTrips : RoundTrips (fun _ => True) toJson ofNode? := by
  refine .of_record (fun _ => rfl) toJson_eq (fun _ => rfl) (by decide) ?_ ?_ fun _ _ _ _ => trivial
  · intro d _
    simp [fields]
  · intro d _ f hf
    simp only [fields, List.forall_mem_cons] at hf
    obtain ⟨hdescription, hurl, -⟩ := hf
    simp only [Fields.string_of_written hdescription, Fields.string_of_always hurl]
    rfl

end ExternalDocs

namespace Tag

/-- The fields with their values. -/
def fields (t : Tag) : List (String × Option Json) :=
  [("name", some (.str t.name)), ("description", leftOutIf t.description.isEmpty (.str t.description)),
    ("externalDocs", t.externalDocs.map ExternalDocs.toJson)]

/-- A tag is written as a table of its fields. -/
theorem toJson_eq (t : Tag) : t.toJson = .obj (present t.fields) := by
  simp only [toJson, always_eq_present, text_eq_present, optional_eq_present, ← present_append]
  rfl

/-- **Tags are read as they were written.** -/
theorem roundTrips : RoundTrips (fun _ => True) toJson ofNode? := by
  refine .of_record (fun _ => rfl) toJson_eq (fun _ => rfl) (by decide) ?_ ?_ fun _ _ _ _ => trivial
  · intro t _
    have hdocs : WellFormedValue (t.externalDocs.map ExternalDocs.toJson) :=
      wellFormedValue_optional fun d _ => ExternalDocs.roundTrips.wellFormed d trivial
    simp [fields, hdocs]
  · intro t _ f hf
    simp only [fields, List.forall_mem_cons] at hf
    obtain ⟨hname, hdescription, hdocs, -⟩ := hf
    simp only [Fields.string_of_always hname, Fields.string_of_written hdescription,
      ExternalDocs.roundTrips.optional (fun _ h => by cases h) hdocs fun _ _ => trivial]
    rfl

end Tag

/-! ## Types with extensions -/

namespace Info

/-- The extensions stand under no name of a field. -/
def Sound (i : Info) : Prop := i.extensions.Sound fieldNames

/-- The fields with their values. -/
def fields (i : Info) : List (String × Option Json) :=
  [("title", leftOutIf i.title.isEmpty (.str i.title)),
    ("description", leftOutIf i.description.isEmpty (.str i.description)),
    ("termsOfService", leftOutIf i.termsOfService.isEmpty (.str i.termsOfService)),
    ("contact", i.contact.map Contact.toJson), ("license", i.license.map License.toJson),
    ("version", leftOutIf i.version.isEmpty (.str i.version))]

/-- What is said about a service is written as a record of its fields and extensions. -/
theorem toJson_eq (i : Info) : i.toJson = .obj (record i.fields i.extensions []) := by
  simp only [toJson, text_eq_present, optional_eq_present, ← present_append, record, present_nil,
    List.append_nil]
  rfl

/-- **What is said about a service is read as it was written.** -/
theorem roundTrips : RoundTrips Sound toJson ofNode? := by
  refine .of_extensible (fun _ => rfl) toJson_eq (fun _ => rfl) (by decide) (fun _ h => h) ?_ ?_ ?_
  · -- every value is well formed
    intro i _
    have hcontact : WellFormedValue (i.contact.map Contact.toJson) :=
      wellFormedValue_optional fun c _ => Contact.roundTrips.wellFormed c trivial
    have hlicense : WellFormedValue (i.license.map License.toJson) :=
      wellFormedValue_optional fun l _ => License.roundTrips.wellFormed l trivial
    simp [fields, hcontact, hlicense]
  · -- every field is read as it was written
    intro i _ f hf
    simp only [fields, List.append_nil, List.forall_mem_cons] at hf
    obtain ⟨htitle, hdescription, hterms, hcontact, hlicense, hversion, -⟩ := hf
    simp only [Fields.string_of_written htitle, Fields.string_of_written hdescription,
      Fields.string_of_written hterms, Fields.string_of_written hversion,
      Contact.roundTrips.optional (fun _ h => by cases h) hcontact fun _ _ => trivial,
      License.roundTrips.optional (fun _ h => by cases h) hlicense fun _ _ => trivial]
    rfl
  · -- what is read is sound
    intro f x _ hx i h
    simp only [Option.bind_eq_bind, Option.bind_eq_some_iff] at h
    obtain ⟨_, -, _, -, _, -, _, -, _, -, _, -, h⟩ := h
    obtain rfl := Option.some.inj h
    exact hx

end Info

namespace Header

/-- The extensions stand under no name of a field. -/
def Sound (h : Header) : Prop := h.extensions.Sound fieldNames

/-- The fields with their values. -/
def fields (h : Header) : List (String × Option Json) :=
  [("description", leftOutIf h.description.isEmpty (.str h.description)),
    ("type", leftOutIf h.type.isEmpty (.str h.type)),
    ("format", leftOutIf h.format.isEmpty (.str h.format))]

/-- A header is written as a record of its fields and extensions. -/
theorem toJson_eq (h : Header) : h.toJson = .obj (record h.fields h.extensions []) := by
  simp only [toJson, text_eq_present, ← present_append, record, present_nil, List.append_nil]
  rfl

/-- **Headers are read as they were written.** -/
theorem roundTrips : RoundTrips Sound toJson ofNode? := by
  refine .of_extensible (fun _ => rfl) toJson_eq (fun _ => rfl) (by decide) (fun _ h => h) ?_ ?_ ?_
  · intro h _
    simp [fields]
  · intro h _ f hf
    simp only [fields, List.append_nil, List.forall_mem_cons] at hf
    obtain ⟨hdescription, htype, hformat, -⟩ := hf
    simp only [Fields.string_of_written hdescription, Fields.string_of_written htype,
      Fields.string_of_written hformat]
    rfl
  · intro f x _ hx r h
    simp only [Option.bind_eq_bind, Option.bind_eq_some_iff] at h
    obtain ⟨_, -, _, -, _, -, h⟩ := h
    obtain rfl := Option.some.inj h
    exact hx

end Header

namespace SecurityScheme

/-- A scheme that is read again as it was. -/
structure Sound (s : SecurityScheme) : Prop where
  /-- The scopes are in the order of their names. -/
  scopes : s.scopes.Sorted
  /-- The extensions stand under no name of a field. -/
  extensions : s.extensions.Sound fieldNames

/-- The fields with their values. -/
def fields (s : SecurityScheme) : List (String × Option Json) :=
  [("type", some (.str s.type)),
    ("description", leftOutIf s.description.isEmpty (.str s.description)),
    ("name", leftOutIf s.name.isEmpty (.str s.name)),
    ("in", leftOutIf s.location.isEmpty (.str s.location)),
    ("flow", leftOutIf s.flow.isEmpty (.str s.flow)),
    ("authorizationUrl", leftOutIf s.authorizationUrl.isEmpty (.str s.authorizationUrl)),
    ("tokenUrl", leftOutIf s.tokenUrl.isEmpty (.str s.tokenUrl)),
    ("scopes", leftOutIf (s.scopes.map Json.str).entries.isEmpty (.obj (s.scopes.map .str).entries))]

/-- A security scheme is written as a record of its fields and extensions. -/
theorem toJson_eq (s : SecurityScheme) : s.toJson = .obj (record s.fields s.extensions []) := by
  simp only [toJson, always_eq_present, text_eq_present, dict, object_eq_present, ← present_append,
    record, present_nil, List.append_nil]
  rfl

/-- **Security schemes are read as they were written.** -/
theorem roundTrips : RoundTrips Sound toJson ofNode? := by
  refine .of_extensible (fun _ => rfl) toJson_eq (fun _ => rfl) (by decide) (fun _ h => h.extensions)
    ?_ ?_ ?_
  · -- every value is well formed
    intro s hs
    have hscopes := wellFormedValue_dict hs.scopes fun e _ => Json.wellFormed_str e.2
    simp [fields, hscopes]
  · -- every field is read as it was written
    intro s hs f hf
    simp only [fields, List.append_nil, List.forall_mem_cons] at hf
    obtain ⟨htype, hdescription, hname, hlocation, hflow, hauthorization, htoken, hscopes, -⟩ := hf
    have hread : f.dict "scopes" Node.string? = some s.scopes :=
      Fields.dict_of_written hscopes hs.scopes fun _ _ => rfl
    simp only [Fields.string_of_always htype, Fields.string_of_written hdescription,
      Fields.string_of_written hname, Fields.string_of_written hlocation,
      Fields.string_of_written hflow, Fields.string_of_written hauthorization,
      Fields.string_of_written htoken, hread]
    rfl
  · -- what is read is sound
    intro f x hf hx s h
    simp only [Option.bind_eq_bind, Option.bind_eq_some_iff] at h
    obtain ⟨_, -, _, -, _, -, _, -, _, -, _, -, _, -, scopes, hscopes, h⟩ := h
    obtain rfl := Option.some.inj h
    exact ⟨(hf.dict Node.yields_string? hscopes).1, hx⟩

end SecurityScheme

end Swagger

import ExcerptSearch.Proofs.Archive.Format

namespace ExcerptSearch

namespace Archive

variable {α : Type} {describes : α → Json → Prop} {read : Json → Option α} {a default : α}
variable {as : List α} {v : Json} {o : Option Json} {d : Database}

section Read

theorem lt_of_count? {n : Nat} (h : count? v = some n) : n < Nat.pow 2 64 := by
  have ⟨_, hn⟩ := Option.filter_eq_some_iff.mp h
  exact of_decide_eq_true hn

theorem eq_default_or_of_optional (h : optional default read o = some a) :
    a = default ∨ ∃ v, read v = some a := by
  cases o with
  | none => exact .inl (Option.some.inj h).symm
  | some v => exact .inr ⟨v, h⟩

theorem eq_some_of_nullable (h : nullable read v = some (some a)) : read v = some a := by
  unfold nullable at h
  split at h
  case h_1 => exact nomatch h
  case h_2 => simpa using h

theorem exists_of_mapM {β : Type} {f : β → Option α} {bs : List β} (h : bs.mapM f = some as)
    (ha : a ∈ as) : ∃ b ∈ bs, f b = some a := by
  induction bs generalizing as with
  | nil =>
    obtain rfl := Option.some.inj h
    exact nomatch ha
  | cons b bs ih =>
    rw [List.mapM_cons] at h
    have ⟨a', hb, h⟩ := Option.bind_eq_some_iff.mp h
    have ⟨as', hbs, h⟩ := Option.bind_eq_some_iff.mp h
    obtain rfl := Option.some.inj h
    obtain rfl | ha := List.mem_cons.mp ha
    · exact ⟨b, .head bs, hb⟩
    · have ⟨b', hb', heq⟩ := ih hbs ha
      exact ⟨b', .tail b hb', heq⟩

theorem exists_of_mem_list? (h : list? read v = some as) (ha : a ∈ as) :
    ∃ v, read v = some a := by
  unfold list? at h
  split at h
  case h_1 =>
    have ⟨v, _, hv⟩ := exists_of_mapM h ha
    exact ⟨v, hv⟩
  case h_2 => exact nomatch h

theorem exists_entries_of_dictionary? {d : Dictionary α} (h : dictionary? read v = some d) :
    ∃ entries, d = .ofList entries ∧ ∀ e ∈ entries, ∃ v, read v = some e.2 := by
  unfold dictionary? at h
  split at h
  case h_1 =>
    have ⟨entries, hentries, h⟩ := Option.bind_eq_some_iff.mp h
    refine ⟨entries, (Option.some.inj h).symm, fun e he => ?_⟩
    have ⟨m, _, hm⟩ := exists_of_mapM hentries he
    have ⟨_, _, hm⟩ := Option.bind_eq_some_iff.mp hm
    have ⟨_, hread, heq⟩ := Option.bind_eq_some_iff.mp hm
    obtain rfl := Option.some.inj heq
    exact ⟨m.2, hread⟩
  case h_2 => exact nomatch h

theorem exists_of_mem_dictionary? {d : Dictionary α} (h : dictionary? read v = some d)
    (ha : a ∈ d.values) : ∃ v, read v = some a := by
  obtain ⟨entries, rfl, hread⟩ := exists_entries_of_dictionary? h
  obtain ⟨e, he, rfl⟩ := List.mem_map.mp ha
  exact hread e (Dictionary.mem_of_mem_ofList he)

theorem storable_of_item? {i : Item} (h : item? v = some i) : i.Storable := by
  unfold item? at h
  split at h
  case h_1 =>
    simp only [Option.bind_eq_bind, Option.bind_eq_some_iff, Option.pure_def] at h
    obtain ⟨_, _, _, _, _, _, _, _, teachers, hteachers, h⟩ := h
    obtain rfl := Option.some.inj h
    refine ⟨fun n hn => ?_⟩
    obtain rfl := Option.mem_def.mp hn
    have ⟨_, hread⟩ := (eq_default_or_of_optional hteachers).resolve_left (by simp)
    exact lt_of_count? (eq_some_of_nullable hread)
  case h_2 => exact nomatch h

theorem storable_of_section? {s : Section} (h : section? v = some s) : s.Storable := by
  unfold section? at h
  split at h
  case h_1 =>
    simp only [Option.bind_eq_bind, Option.bind_eq_some_iff, Option.pure_def] at h
    obtain ⟨_, _, _, _, items, hitems, _, _, _, _, _, _, h⟩ := h
    obtain rfl := Option.some.inj h
    refine ⟨fun i hi => ?_⟩
    obtain rfl | ⟨_, hread⟩ := eq_default_or_of_optional hitems
    · exact absurd hi List.not_mem_nil
    · have ⟨_, hitem⟩ := exists_of_mem_list? hread hi
      exact storable_of_item? hitem
  case h_2 => exact nomatch h

theorem storable_of_database? (h : database? v = some d) : d.Storable := by
  unfold database? at h
  split at h
  case h_1 =>
    have ⟨sections, hsections, h⟩ := Option.bind_eq_some_iff.mp h
    obtain rfl := Option.some.inj h
    refine ⟨fun s hs => ?_⟩
    obtain rfl | ⟨_, hread⟩ := eq_default_or_of_optional hsections
    · exact absurd hs List.not_mem_nil
    · have ⟨_, hsection⟩ := exists_of_mem_dictionary? hread hs
      exact storable_of_section? hsection
  case h_2 => exact nomatch h

end Read

section Written

-- Is there a description that is printed as one of its spellings?
def Writable (describes : α → Json → Prop) (a : α) : Prop :=
  ∃ v, describes a v ∧ Json.Spells v v.print

theorem writable_isText (t : Text) : Writable IsText t :=
  ⟨_, rfl, Json.spells_ofText t⟩

theorem writable_isCount (n : Nat) : Writable IsCount n :=
  ⟨_, rfl, Json.spells_ofNat n⟩

theorem writable_isNullable {o : Option α} (h : ∀ a ∈ o, Writable describes a) :
    Writable (IsNullable describes) o := by
  cases o with
  | none => exact ⟨_, .absent, .null⟩
  | some a =>
    have ⟨v, hv, ht⟩ := h a rfl
    exact ⟨v, .present hv, ht⟩

theorem exists_forall₂ {β : Type} {R : α → β → Prop} {P : β → Prop}
    (h : ∀ a ∈ as, ∃ b, R a b ∧ P b) : ∃ bs, List.Forall₂ R as bs ∧ ∀ b ∈ bs, P b := by
  induction as with
  | nil => exact ⟨[], .nil, fun _ hb => nomatch hb⟩
  | cons a as ih =>
    have ⟨⟨b, hb, hp⟩, has⟩ := List.forall_mem_cons.mp h
    have ⟨bs, hbs, hps⟩ := ih has
    exact ⟨b :: bs, .cons hb hbs, List.forall_mem_cons.mpr ⟨hp, hps⟩⟩

theorem writable_isList (h : ∀ a ∈ as, Writable describes a) : Writable (IsList describes) as := by
  have ⟨_, hvs, ht⟩ := exists_forall₂ h
  exact ⟨_, .mk hvs, Json.spells_array ht⟩

theorem spells_named {members : List (Text × Json)} (h : ∀ m ∈ members, Json.Spells m.2 m.2.print) :
    Json.Spells (.object (members.map named)) (Json.object (members.map named)).print :=
  Json.spells_object (List.forall_mem_map.mpr fun m hm => ⟨rfl, h m hm⟩)

theorem writable_isDictionary {d : Dictionary α} (h : ∀ a ∈ d.values, Writable describes a) :
    Writable (IsDictionary describes) d := by
  have hentries : ∀ e ∈ d.entries, ∃ m : Text × Json,
      (m.1 = e.1 ∧ describes e.2 m.2) ∧ Json.Spells m.2 m.2.print := by
    intro e he
    have ⟨v, hv, ht⟩ := h e.2 (List.mem_map_of_mem he)
    exact ⟨(e.1, v), ⟨rfl, hv⟩, ht⟩
  have ⟨_, hmembers, ht⟩ := exists_forall₂ hentries
  exact ⟨_, .mk (.refl _) hmembers, spells_named ht⟩

theorem isRecord_named (members : List (Text × Json)) :
    IsRecord (members.map fun m => (m.1, some m.2)) (.object (members.map named)) := by
  have hgiven : given (members.map fun m => (m.1, some m.2)) = members := by
    simp [given, List.flatMap_map]
  refine @IsRecord.mk _ members [] ?_ fun _ hm => nomatch hm
  rw [hgiven, List.append_nil]

theorem writable_isItem (i : Item) : Writable IsItem i := by
  have ⟨blobs, hblobs, hblobsText⟩ := writable_isList fun t (_ : t ∈ i.blobs) => writable_isText t
  have ⟨html, hhtml, hhtmlText⟩ := writable_isText i.html
  have ⟨session, hsession, hsessionText⟩ :=
    writable_isNullable fun t (_ : t ∈ i.session) => writable_isText t
  have ⟨event, hevent, heventText⟩ :=
    writable_isNullable fun t (_ : t ∈ i.event) => writable_isText t
  have ⟨teachers, hteachers, hteachersText⟩ :=
    writable_isNullable fun n (_ : n ∈ i.uniqueTeachers) => writable_isCount n
  have hrecord := isRecord_named [("blobs".toList, blobs), ("html".toList, html),
    ("session".toList, session), ("event".toList, event), ("uniqueTeachers".toList, teachers)]
  refine ⟨_, .mk (.given hblobs) (.given hhtml) (.given hsession) (.given hevent)
    (.given hteachers) hrecord, spells_named ?_⟩
  simp only [List.forall_mem_cons]
  exact ⟨hblobsText, hhtmlText, hsessionText, heventText, hteachersText, fun _ hm => nomatch hm⟩

theorem writable_isSection (s : Section) : Writable IsSection s := by
  have ⟨code, hcode, hcodeText⟩ := writable_isText s.code
  have ⟨name, hname, hnameText⟩ := writable_isText s.name
  have ⟨items, hitems, hitemsText⟩ := writable_isList fun i (_ : i ∈ s.items) => writable_isItem i
  have ⟨headers, hheaders, hheadersText⟩ :=
    writable_isDictionary fun t (_ : t ∈ s.sessionHeaders.values) => writable_isText t
  have ⟨footers, hfooters, hfootersText⟩ :=
    writable_isDictionary fun t (_ : t ∈ s.eventFooters.values) => writable_isText t
  have ⟨words, hwords, hwordsText⟩ := writable_isText s.commonWords
  have hrecord := isRecord_named [("code".toList, code), ("name".toList, name),
    ("items".toList, items), ("sessionHeader".toList, headers), ("eventHtml".toList, footers),
    ("commonWordBlob".toList, words)]
  refine ⟨_, .mk (.given hcode) (.given hname) (.given hitems) (.given hheaders)
    (.given hfooters) (.given hwords) hrecord, spells_named ?_⟩
  simp only [List.forall_mem_cons]
  exact ⟨hcodeText, hnameText, hitemsText, hheadersText, hfootersText, hwordsText,
    fun _ hm => nomatch hm⟩

theorem writable_isDatabase (d : Database) : Writable IsDatabase d := by
  have ⟨searches, hsearches, hsearchesText⟩ :=
    writable_isDictionary fun s (_ : s ∈ d.sections.values) => writable_isSection s
  have hrecord := isRecord_named [("searches".toList, searches)]
  refine ⟨_, .mk (.given hsearches) hrecord, spells_named ?_⟩
  simp only [List.forall_mem_cons]
  exact ⟨hsearchesText, fun _ hm => nomatch hm⟩

end Written

theorem exists_ofText?_iff : (∃ t, Database.ofText? t = some d) ↔ d.Storable := by
  constructor
  case mp =>
    rintro ⟨t, ht⟩
    have ⟨v, _, hv⟩ := Option.bind_eq_some_iff.mp ht
    exact storable_of_database? hv
  case mpr =>
    intro hd
    have ⟨v, hv, ht⟩ := writable_isDatabase d
    refine ⟨v.print, ?_⟩
    rw [Database.ofText?, Json.parse?_of_spells ht.spaced]
    exact hv.database? hd

end Archive
end ExcerptSearch

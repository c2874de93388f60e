import ExcerptSearch.Archive.Reader
import ExcerptSearch.Proofs.Dictionary
import ExcerptSearch.Proofs.Json.Printing
import Mathlib.Data.List.Forall2

namespace ExcerptSearch

structure Item.Storable (i : Item) : Prop where
  uniqueTeachers : ∀ n ∈ i.uniqueTeachers, n < Nat.pow 2 64

structure Section.Storable (s : Section) : Prop where
  items : ∀ i ∈ s.items, i.Storable

structure Database.Storable (d : Database) : Prop where
  sections : ∀ s ∈ d.sections.values, s.Storable

namespace Archive

variable {α : Type} {describes : α → Json → Prop} {read : Json → Option α} {a default : α}
variable {as : List α} {v : Json}

section Values

def IsText (t : Text) (v : Json) : Prop :=
  v = .ofText t

def IsCount (n : Nat) (v : Json) : Prop :=
  v = .ofNat n

inductive IsNullable (describes : α → Json → Prop) : Option α → Json → Prop
  | absent : IsNullable describes none .null
  | present {a : α} {v : Json} : describes a v → IsNullable describes (some a) v

inductive IsList (describes : α → Json → Prop) (as : List α) : Json → Prop
  | mk {vs : List Json} : List.Forall₂ describes as vs → IsList describes as (.array vs)

def named (m : Text × Json) : Option Text × Json :=
  (some m.1, m.2)

inductive IsDictionary (describes : α → Json → Prop) (d : Dictionary α) : Json → Prop
  | mk {entries : List (Text × α)} {members : List (Text × Json)} :
    entries.Perm d.entries →
      List.Forall₂ (fun e m => m.1 = e.1 ∧ describes e.2 m.2) entries members →
      IsDictionary describes d (.object (members.map named))

-- What a record gives for a field: a value that describes what the field holds, or nothing, if it
-- holds what it holds by default.
inductive IsField (describes : α → Json → Prop) (default : Option α) (a : α) : Option Json → Prop
  | given {v : Json} : describes a v → IsField describes default a (some v)
  | omitted : default = some a → IsField describes default a none

def given (fields : List (Text × Option Json)) : List (Text × Json) :=
  fields.flatMap fun f => (f.2.map (f.1, ·)).toList

-- An object with the members for the fields, and with others of other names, in any order.
inductive IsRecord (fields : List (Text × Option Json)) : Json → Prop
  | mk {members others : List (Text × Json)} :
    members.Perm (given fields ++ others) → (∀ m ∈ others, m.1 ∉ fields.map (·.1)) →
      IsRecord fields (.object (members.map named))

end Values

section Records

inductive IsItem (i : Item) : Json → Prop
  | mk {blobs html session event uniqueTeachers : Option Json} {v : Json} :
    IsField (IsList IsText) none i.blobs blobs → IsField IsText (some []) i.html html →
      IsField (IsNullable IsText) (some none) i.session session →
      IsField (IsNullable IsText) (some none) i.event event →
      IsField (IsNullable IsCount) (some none) i.uniqueTeachers uniqueTeachers →
      IsRecord [("blobs".toList, blobs), ("html".toList, html), ("session".toList, session),
        ("event".toList, event), ("uniqueTeachers".toList, uniqueTeachers)] v → IsItem i v

inductive IsSection (s : Section) : Json → Prop
  | mk {code name items sessionHeader eventHtml commonWordBlob : Option Json} {v : Json} :
    IsField IsText none s.code code → IsField IsText none s.name name →
      IsField (IsList IsItem) (some []) s.items items →
      IsField (IsDictionary IsText) (some .empty) s.sessionHeaders sessionHeader →
      IsField (IsDictionary IsText) (some .empty) s.eventFooters eventHtml →
      IsField IsText (some []) s.commonWords commonWordBlob →
      IsRecord [("code".toList, code), ("name".toList, name), ("items".toList, items),
        ("sessionHeader".toList, sessionHeader), ("eventHtml".toList, eventHtml),
        ("commonWordBlob".toList, commonWordBlob)] v → IsSection s v

inductive IsDatabase (d : Database) : Json → Prop
  | mk {searches : Option Json} {v : Json} :
    IsField (IsDictionary IsSection) (some .empty) d.sections searches →
      IsRecord [("searches".toList, searches)] v → IsDatabase d v

end Records

section Reading

theorem mapM_eq_some_of_forall₂ {β : Type} {R : α → β → Prop} {f : β → Option α} {bs : List β}
    (h : List.Forall₂ R as bs) (hf : ∀ a ∈ as, ∀ b, R a b → f b = some a) :
    bs.mapM f = some as := by
  induction h with
  | nil => rfl
  | cons ha _ ih =>
    have ⟨hhead, htail⟩ := List.forall_mem_cons.mp hf
    simp [List.mapM_cons, hhead _ ha, ih htail]

theorem text?_of_isText {t : Text} (h : IsText t v) : Json.text? v = some t := by
  rw [h]
  rfl

theorem count?_of_isCount {n : Nat} (hn : n < Nat.pow 2 64) (h : IsCount n v) :
    count? v = some n := by
  rw [h, count?, Json.nat?_ofNat]
  exact Option.filter_some_pos (decide_eq_true hn)

theorem IsNullable.nullable {o : Option α} (h : IsNullable describes o v)
    (hnull : read .null = none) (hread : ∀ a ∈ o, ∀ v, describes a v → read v = some a) :
    nullable read v = some o := by
  cases h with
  | absent => rfl
  | @present a v hv =>
    have hv := hread a rfl v hv
    unfold Archive.nullable
    split
    case h_1 => exact nomatch hnull.symm.trans hv
    case h_2 => rw [hv]; rfl

theorem IsList.list? (h : IsList describes as v)
    (hread : ∀ a ∈ as, ∀ v, describes a v → read v = some a) : list? read v = some as := by
  cases h with
  | mk h => exact mapM_eq_some_of_forall₂ h hread

theorem IsDictionary.dictionary? {d : Dictionary α} (h : IsDictionary describes d v)
    (hread : ∀ a ∈ d.values, ∀ v, describes a v → read v = some a) :
    dictionary? read v = some d := by
  cases h with
  | @mk entries members hperm h =>
    have hentries : (members.map named).mapM (fun m => do return (← m.1, ← read m.2)) =
        some entries := by
      rw [List.mapM_map]
      refine mapM_eq_some_of_forall₂ h fun e he m hm => ?_
      obtain ⟨hkey, hvalue⟩ := hm
      have hmem : e.2 ∈ d.values := List.mem_map_of_mem (hperm.mem_iff.mp he)
      simp [named, hkey, hread e.2 hmem m.2 hvalue]
    rw [Archive.dictionary?, hentries]
    exact congrArg some (Dictionary.ofList_eq hperm)

theorem IsField.required {o : Option Json} (h : IsField describes none a o)
    (hread : ∀ v, describes a v → read v = some a) : required read o = some a := by
  cases h with
  | given hv => exact hread _ hv
  | omitted h => exact nomatch h

theorem IsField.optional {o : Option Json} (h : IsField describes (some default) a o)
    (hread : ∀ v, describes a v → read v = some a) : optional default read o = some a := by
  cases h with
  | given hv => exact hread _ hv
  | omitted h => exact h

variable {fields : List (Text × Option Json)} {k : Text} {o : Option Json}

theorem mem_names_of_mem_given {m : Text × Json} (hm : m ∈ given fields) :
    m.1 ∈ fields.map (·.1) := by
  have ⟨f, hf, hm⟩ := List.mem_flatMap.mp hm
  obtain ⟨v, -, rfl⟩ := Option.map_eq_some_iff.mp (Option.mem_toList.mp hm)
  exact List.mem_map_of_mem hf

theorem filter_given (hn : (fields.map (·.1)).Nodup) (hf : (k, o) ∈ fields) :
    (given fields).filter (·.1 == k) = (o.map (k, ·)).toList := by
  induction fields with
  | nil => exact nomatch hf
  | cons f fields ih =>
    have ⟨hnew, hn⟩ := List.nodup_cons.mp hn
    have hsplit : given (f :: fields) = (f.2.map (f.1, ·)).toList ++ given fields := rfl
    rw [hsplit, List.filter_append]
    obtain rfl | hf := List.mem_cons.mp hf
    · have hnone : (given fields).filter (·.1 == k) = [] := by
        refine List.filter_eq_nil_iff.mpr fun m hm heq => hnew ?_
        exact eq_of_beq heq ▸ mem_names_of_mem_given hm
      rw [hnone, List.append_nil]
      cases o <;> simp
    · have hne : f.1 ≠ k := fun heq => hnew (List.mem_map.mpr ⟨(k, o), hf, heq.symm⟩)
      rw [ih hn hf]
      cases f.2 <;> simp [hne]

theorem field?_of_perm {members others : List (Text × Json)} (hn : (fields.map (·.1)).Nodup)
    (hperm : members.Perm (given fields ++ others)) (hothers : ∀ m ∈ others, m.1 ∉ fields.map (·.1))
    (hf : (k, o) ∈ fields) : field? (members.map named) k = some o := by
  have hnone : others.filter (·.1 == k) = [] := by
    refine List.filter_eq_nil_iff.mpr fun m hm heq => hothers m hm ?_
    exact eq_of_beq heq ▸ List.mem_map_of_mem hf
  have hfilter : (members.filter (·.1 == k)).Perm (o.map (k, ·)).toList := by
    have h := hperm.filter (·.1 == k)
    rwa [List.filter_append, filter_given hn hf, hnone, List.append_nil] at h
  have hnamed : (members.map named).filter (·.1 == some k) =
      (members.filter (·.1 == k)).map named := by
    rw [List.filter_map]
    rfl
  rw [Archive.field?, hnamed]
  cases o with
  | none => rw [List.Perm.eq_nil hfilter]; rfl
  | some v => rw [List.perm_singleton.mp hfilter]; rfl

theorem IsRecord.fields? (h : IsRecord fields v) (hn : (fields.map (·.1)).Nodup) :
    fields? (fields.map (·.1)) v = some (fields.map (·.2)) := by
  cases h with
  | @mk members others hperm hothers =>
    have hnames : (members.map named).all (·.1.isSome) = true := by
      simp [named]
    have hfields : List.Forall₂ (fun o k => Archive.field? (members.map named) k = some o)
        (fields.map (·.2)) (fields.map (·.1)) := by
      refine List.forall₂_map_left_iff.mpr (List.forall₂_map_right_iff.mpr ?_)
      exact List.forall₂_same.mpr fun f hf => field?_of_perm hn hperm hothers hf
    rw [Archive.fields?, if_pos hnames]
    exact mapM_eq_some_of_forall₂ hfields fun _ _ _ h => h

end Reading

section Records

theorem IsItem.item? {i : Item} (h : IsItem i v) (hi : i.Storable) : item? v = some i := by
  cases h with
  | @mk blobs html session event uniqueTeachers v hblobs hhtml hsession hevent hteachers hrecord =>
    have hnames : itemNames.Nodup := by decide
    have hfields : fields? itemNames v = some [blobs, html, session, event, uniqueTeachers] :=
      hrecord.fields? hnames
    have hblobs := hblobs.required fun v hv => hv.list? fun _ _ _ => text?_of_isText
    have hhtml := hhtml.optional fun v => text?_of_isText
    have hsession := hsession.optional fun v hv => hv.nullable rfl fun _ _ _ => text?_of_isText
    have hevent := hevent.optional fun v hv => hv.nullable rfl fun _ _ _ => text?_of_isText
    have hteachers := hteachers.optional fun v hv =>
      hv.nullable rfl fun n hn _ => count?_of_isCount (hi.uniqueTeachers n hn)
    simp [Archive.item?, hfields, hblobs, hhtml, hsession, hevent, hteachers]

theorem IsSection.section? {s : Section} (h : IsSection s v) (hs : s.Storable) :
    Archive.section? v = some s := by
  cases h with
  | @mk code name items sessionHeader eventHtml commonWordBlob v hcode hname hitems hheaders
      hfooters hwords hrecord =>
    have hnames : sectionNames.Nodup := by decide
    have hfields : fields? sectionNames v =
        some [code, name, items, sessionHeader, eventHtml, commonWordBlob] :=
      hrecord.fields? hnames
    have hcode := hcode.required fun v => text?_of_isText
    have hname := hname.required fun v => text?_of_isText
    have hitems := hitems.optional fun v hv => hv.list? fun i hi _ hv => hv.item? (hs.items i hi)
    have hheaders := hheaders.optional fun v hv =>
      hv.dictionary? fun _ _ _ => text?_of_isText
    have hfooters := hfooters.optional fun v hv =>
      hv.dictionary? fun _ _ _ => text?_of_isText
    have hwords := hwords.optional fun v => text?_of_isText
    simp [Archive.section?, hfields, hcode, hname, hitems, hheaders, hfooters, hwords]

theorem IsDatabase.database? {d : Database} (h : IsDatabase d v) (hd : d.Storable) :
    database? v = some d := by
  cases h with
  | @mk searches v hsearches hrecord =>
    have hnames : databaseNames.Nodup := by decide
    have hfields : fields? databaseNames v = some [searches] := hrecord.fields? hnames
    have hsections := hsearches.optional fun v hv =>
      hv.dictionary? fun s hs _ hv => hv.section? (hd.sections s hs)
    simp [Archive.database?, hfields, hsections]

-- A database is read from every text that describes it.
theorem ofText?_of_isDatabase {d : Database} {t : Text} (hd : d.Storable) (hv : IsDatabase d v)
    (ht : Json.SpellsSpaced v t) : Database.ofText? t = some d := by
  rw [Database.ofText?, Json.parse?_of_spells ht]
  exact hv.database? hd

theorem ofText?_of_isDatabase_surrogates :
    Database.ofText? ("\x7b\"b\":null,\"searches\":\x7b\"x\":\x7b\"code\":\"x\",".toList ++
      "\"name\":\"\\ud83d\\uDE00\",\"items\":[\x7b\"uniqueTeachers\":".toList ++
      "18446744073709551615,\"blobs\":[]\x7d]\x7d\x7d\x7d\n".toList) =
    some { sections := .ofList [(['x'], { code := ['x'], name := ['😀'], items :=
      [{ blobs := [], uniqueTeachers := some 18446744073709551615 }] })] } := by
  have hname : Json.Spells (.ofText ['😀']) "\"\\ud83d\\uDE00\"".toList := by
    have hhigh : Json.SpellsUnit 0xd83d "\\ud83d".toList :=
      @Json.SpellsUnit.mk 13 8 3 13 _ _ _ _ (by decide) (by decide) (by decide) (by decide)
    have hlow : Json.SpellsUnit 0xde00 "\\uDE00".toList :=
      @Json.SpellsUnit.mk 13 14 0 0 _ _ _ _ (by decide) (by decide) (by decide) (by decide)
    have hbody := Json.SpellsBody.cons (.half hhigh (by decide) (by decide))
      (.cons (.half hlow (by decide) (by decide)) .nil)
    exact .string (.text hbody (.pair (c := '😀') (by decide) .nil))
  have hitem : IsItem { blobs := [], uniqueTeachers := some 18446744073709551615 }
      (.object ([("uniqueTeachers".toList, .ofNat 18446744073709551615),
        ("blobs".toList, .array [])].map named)) :=
    .mk (.given (.mk .nil)) (.omitted rfl) (.omitted rfl) (.omitted rfl) (.given (.present rfl))
      (@IsRecord.mk _ _ [] (.swap _ _ _) fun _ hm => nomatch hm)
  have hsection : ∀ i v, IsItem i v → IsSection { code := ['x'], name := ['😀'], items := [i] }
      (.object ([("code".toList, .ofText ['x']), ("name".toList, .ofText ['😀']),
        ("items".toList, .array [v])].map named)) := fun i v hi =>
    .mk (.given rfl) (.given rfl) (.given (.mk (.cons hi .nil))) (.omitted rfl) (.omitted rfl)
      (.omitted rfl) (@IsRecord.mk _ _ [] (.refl _) fun _ hm => nomatch hm)
  have hdatabase : ∀ s v, IsSection s v → IsDatabase { sections := .ofList [(['x'], s)] }
      (.object ([("b".toList, .null),
        ("searches".toList, .object ([(['x'], v)].map named))].map named)) := fun s v hs =>
    .mk (.given (@IsDictionary.mk _ _ _ _ [(['x'], v)] (.refl _) (.cons ⟨rfl, hs⟩ .nil)))
      (@IsRecord.mk _ _ [("b".toList, .null)] (.swap _ _ _) (by simp))
  have hplain := fun k : String => Json.spellsName_printString k.toList
  have hitemText := Json.Spells.object (.more (hplain "uniqueTeachers")
    (Json.spells_ofNat 18446744073709551615).spaced
    (.last (hplain "blobs") (Json.Spells.spaced (.empty (w := []) (by decide)))))
  have hsectionText := Json.Spells.object (.more (hplain "code") (Json.spells_ofText ['x']).spaced
    (.more (hplain "name") hname.spaced
      (.last (hplain "items") (Json.Spells.spaced (.array (.last hitemText.spaced))))))
  have hdatabaseText := Json.Spells.object (.more (hplain "b") Json.Spells.null.spaced
    (.last (hplain "searches")
      (Json.Spells.spaced (.object (.last (hplain "x") hsectionText.spaced)))))
  refine ofText?_of_isDatabase ?storable (hdatabase _ _ (hsection _ _ hitem))
    (@Json.SpellsSpaced.mk _ [] _ ['\n'] (by decide) hdatabaseText (by decide))
  case storable =>
    refine ⟨fun s hs => ?_⟩
    obtain rfl := List.mem_singleton.mp hs
    refine ⟨fun i hi => ?_⟩
    obtain rfl := List.mem_singleton.mp hi
    exact ⟨by simp⟩

end Records
end Archive
end ExcerptSearch

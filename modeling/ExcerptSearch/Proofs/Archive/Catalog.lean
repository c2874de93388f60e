import ExcerptSearch.Archive.Catalog
import ExcerptSearch.Proofs.Unicode.Utf8
import Mathlib.Data.List.Basic
import Mathlib.Data.List.Sort

namespace ExcerptSearch

section Keys

variable {α : Type} {key : α → Text} {l : List α} {a : α} {k : Text}

theorem find?_key_eq_some_iff (h : (l.map key).Nodup) :
    l.find? (key · == k) = some a ↔ a ∈ l ∧ key a = k := by
  constructor
  case mp => exact fun ha => ⟨List.mem_of_find?_eq_some ha, by simpa using List.find?_some ha⟩
  case mpr =>
    rintro ⟨ha, rfl⟩
    have hsome : (l.find? (key · == key a)).isSome :=
      List.find?_isSome.mpr ⟨a, ha, beq_self_eq_true _⟩
    obtain ⟨b, hb⟩ := Option.isSome_iff_exists.mp hsome
    have hkey : key b = key a := by simpa using List.find?_some hb
    rw [hb, List.inj_on_of_nodup_map h (List.mem_of_find?_eq_some hb) ha hkey]

theorem find?_key_isSome_iff : (l.find? (key · == k)).isSome ↔ k ∈ l.map key := by
  simp [List.find?_isSome]

end Keys

namespace Database

def codes (d : Database) : List Text :=
  d.sections.values.map (·.code)

-- Do all sections have codes of their own, and none that of a group?
structure Distinct (d : Database) : Prop where
  nodup : d.codes.Nodup
  apart : ∀ k ∈ d.codes, k ∉ Catalog.groups.map (·.1)

end Database

namespace Catalog

variable {d d' : Database} {c : Catalog} {s t : Section} {i j k : Text}

section Order

def CodeBefore (i j : Text) : Prop :=
  knownCodes.idxOf i < knownCodes.idxOf j ∨ knownCodes.idxOf i = knownCodes.idxOf j ∧ ¬j < i

theorem listedBefore_iff : listedBefore s t = true ↔ CodeBefore s.code t.code := by
  simp [listedBefore, CodeBefore]

namespace CodeBefore

theorem trans (hij : CodeBefore i j) (hjk : CodeBefore j k) : CodeBefore i k := by
  obtain hlt | ⟨heq, hle⟩ := hij
  · obtain hlt' | ⟨heq', -⟩ := hjk
    · exact .inl (Nat.lt_trans hlt hlt')
    · exact .inl (heq' ▸ hlt)
  · obtain hlt' | ⟨heq', hle'⟩ := hjk
    · exact .inl (heq ▸ hlt')
    · have hle := List.le_trans (List.not_lt.mp hle) (List.not_lt.mp hle')
      exact .inr ⟨heq.trans heq', List.not_lt.mpr hle⟩

theorem total (i j : Text) : CodeBefore i j ∨ CodeBefore j i := by
  obtain hlt | heq | hgt := Nat.lt_trichotomy (knownCodes.idxOf i) (knownCodes.idxOf j)
  · exact .inl (.inl hlt)
  · by_cases h : j < i
    · exact .inr (.inr ⟨heq.symm, List.lt_asymm h⟩)
    · exact .inl (.inr ⟨heq, h⟩)
  · exact .inr (.inl hgt)

theorem antisymm (hij : CodeBefore i j) (hji : CodeBefore j i) : i = j := by
  obtain hlt | ⟨heq, hle⟩ := hij
  · obtain hlt' | ⟨heq', -⟩ := hji
    · exact absurd hlt (Nat.lt_asymm hlt')
    · exact absurd heq' (Nat.ne_of_gt hlt)
  · obtain hlt' | ⟨-, hle'⟩ := hji
    · exact absurd heq (Nat.ne_of_gt hlt')
    · exact List.le_antisymm (List.not_lt.mp hle) (List.not_lt.mp hle')

end CodeBefore

def listed (d : Database) : List Section :=
  d.sections.values.mergeSort listedBefore

theorem listed_perm (d : Database) : (listed d).Perm d.sections.values :=
  List.mergeSort_perm _ _

theorem pairwise_listed (d : Database) :
    (listed d).Pairwise fun s t => CodeBefore s.code t.code := by
  have htrans : ∀ s t u, listedBefore s t = true → listedBefore t u = true →
      listedBefore s u = true := by
    simp only [listedBefore_iff]
    exact fun _ _ _ => .trans
  have htotal : ∀ s t, (listedBefore s t || listedBefore t s) = true := by
    simp only [Bool.or_eq_true, listedBefore_iff]
    exact fun s t => CodeBefore.total s.code t.code
  exact (List.pairwise_mergeSort htrans htotal _).imp listedBefore_iff.mp

theorem nodup_listed (h : d.Distinct) : ((listed d).map (·.code)).Nodup :=
  ((listed_perm d).map _).nodup_iff.mpr h.nodup

theorem mem_listed : k ∈ (listed d).map (·.code) ↔ k ∈ d.codes :=
  ((listed_perm d).map _).mem_iff

theorem listed_eq_of_perm (h : d.Distinct) (hperm : d'.sections.values.Perm d.sections.values) :
    listed d' = listed d := by
  have hperm : (listed d').Perm (listed d) :=
    (listed_perm d').trans (hperm.trans (listed_perm d).symm)
  refine hperm.eq_of_pairwise ?_ (pairwise_listed d') (pairwise_listed d)
  intro s t hs ht hst hts
  exact List.inj_on_of_nodup_map (nodup_listed h) (hperm.mem_iff.mp hs) ht (hst.antisymm hts)

theorem knownCodes_nodup : knownCodes.Nodup := by
  decide

theorem knownCodes_pairwise : knownCodes.Pairwise CodeBefore := by
  have hidx : knownCodes.Pairwise fun i j => knownCodes.idxOf i < knownCodes.idxOf j := by
    decide
  exact hidx.imp .inl

theorem CodeBefore.of_known (hi : i ∈ knownCodes) (hj : j ∉ knownCodes) : CodeBefore i j := by
  refine .inl ?_
  rw [List.idxOf_eq_length_iff.mpr hj]
  exact List.idxOf_lt_length_iff.mpr hi

theorem CodeBefore.lt (h : CodeBefore i j) (hi : i ∉ knownCodes) (hj : j ∉ knownCodes)
    (hne : i ≠ j) : i < j := by
  obtain hlt | ⟨-, hle⟩ := h
  · rw [List.idxOf_eq_length_iff.mpr hi, List.idxOf_eq_length_iff.mpr hj] at hlt
    exact absurd hlt (Nat.lt_irrefl _)
  · exact (List.le_iff_lt_or_eq.mp (List.not_lt.mp hle)).resolve_right hne

theorem exists_map_code_listed (h : d.Distinct) : ∃ others : List Text,
    others.Pairwise (fun i j => Text.utf8 i < Text.utf8 j) ∧
    (∀ k, k ∈ others ↔ k ∈ d.codes ∧ k ∉ knownCodes) ∧
    (listed d).map (·.code) = knownCodes.filter (· ∈ d.codes) ++ others := by
  let codes := (listed d).map (·.code)
  have hcodes : codes.Pairwise CodeBefore := List.pairwise_map.mpr (pairwise_listed d)
  have hnodup : codes.Nodup := nodup_listed h
  let others := codes.filter (· ∉ knownCodes)
  have hothers : ∀ k, k ∈ others ↔ k ∈ d.codes ∧ k ∉ knownCodes := by
    intro k
    rw [List.mem_filter, mem_listed, decide_eq_true_iff]
  have hknown : ∀ k, k ∈ knownCodes.filter (· ∈ d.codes) ↔ k ∈ knownCodes ∧ k ∈ d.codes := by
    intro k
    rw [List.mem_filter, decide_eq_true_iff]
  refine ⟨others, ?bytes, hothers, ?list⟩
  case bytes =>
    refine ((hcodes.and hnodup).filter _).imp_of_mem ?_
    intro i j hi hj ⟨hij, hne⟩
    exact Text.utf8_lt_iff.mpr (hij.lt ((hothers i).mp hi).2 ((hothers j).mp hj).2 hne)
  case list =>
    have hnodup' : (knownCodes.filter (· ∈ d.codes) ++ others).Nodup := by
      refine (knownCodes_nodup.filter _).append (hnodup.filter _) ?_
      intro k hk hk'
      exact ((hothers k).mp hk').2 ((hknown k).mp hk).1
    have hperm : codes.Perm (knownCodes.filter (· ∈ d.codes) ++ others) := by
      rw [List.perm_ext_iff_of_nodup hnodup hnodup']
      intro k
      rw [List.mem_append, hknown, hothers, mem_listed]
      tauto
    refine hperm.eq_of_pairwise (fun _ _ _ _ => CodeBefore.antisymm) hcodes ?_
    refine List.pairwise_append.mpr ⟨knownCodes_pairwise.filter _, hcodes.filter _, ?_⟩
    intro i hi j hj
    exact .of_known ((hknown i).mp hi).1 ((hothers j).mp hj).2

end Order

section Groups

variable {sections : List SectionSearcher} {codes : List Text} {group : Text × List Text}

def sectionCodes (sections : List SectionSearcher) : List Text :=
  sections.map (·.archive.code)

theorem map_code_members : sectionCodes (members sections codes) =
    codes.filter (· ∈ sectionCodes sections) := by
  induction codes with
  | nil => rfl
  | cons k codes ih =>
    have hmem : (sections.find? (·.archive.code == k)).isSome ↔ k ∈ sectionCodes sections :=
      find?_key_isSome_iff
    unfold members at ih ⊢
    rw [List.filterMap_cons, List.filter_cons]
    cases hfind : sections.find? (·.archive.code == k) with
    | none =>
      have hk : k ∉ sectionCodes sections := by
        rw [← hmem, hfind]
        exact Bool.false_ne_true
      rw [if_neg (by simpa using hk)]
      exact ih
    | some m =>
      have hk : k ∈ sectionCodes sections := by
        rw [← hmem, hfind]
        rfl
      have hm : m.archive.code = k := by simpa using List.find?_some hfind
      rw [if_pos (by simpa using hk), ← ih, ← hm]
      rfl

theorem mem_of_mem_members {m : SectionSearcher} (h : m ∈ members sections codes) :
    m ∈ sections := by
  obtain ⟨k, -, hk⟩ := List.mem_filterMap.mp h
  exact List.mem_of_find?_eq_some hk

theorem members_ne_nil_iff :
    members sections codes ≠ [] ↔ codes.any (· ∈ sectionCodes sections) = true := by
  have hmap : members sections codes ≠ [] ↔ sectionCodes (members sections codes) ≠ [] :=
    List.map_eq_nil_iff.not.symm
  rw [hmap, map_code_members]
  simp

theorem groupSearcher?_eq (group : Text × List Text) : groupSearcher? sections group =
    if group.2.any (· ∈ sectionCodes sections) then
      some (.several group.1 (members sections group.2))
    else none := by
  obtain ⟨code, codes⟩ := group
  split
  case isTrue h =>
    obtain ⟨m, ms, hms⟩ := List.exists_cons_of_ne_nil (members_ne_nil_iff.mpr h)
    simp only [groupSearcher?, hms]
  case isFalse h =>
    have hnil : members sections codes = [] := by
      by_contra hne
      exact h (members_ne_nil_iff.mp hne)
    simp only [groupSearcher?, hnil]

theorem eq_several_of_groupSearcher? {s : Searcher} (h : groupSearcher? sections group = some s) :
    s = .several group.1 (members sections group.2) := by
  rw [groupSearcher?_eq, Option.ite_none_right_eq_some] at h
  exact (Option.some.inj h.2).symm

theorem map_code_groups (gs : List (Text × List Text)) :
    (gs.filterMap (groupSearcher? sections)).map Searcher.code =
      (gs.filter fun g => g.2.any (· ∈ sectionCodes sections)).map (·.1) := by
  induction gs with
  | nil => rfl
  | cons g gs ih =>
    rw [List.filterMap_cons, List.filter_cons, groupSearcher?_eq]
    by_cases hg : g.2.any (· ∈ sectionCodes sections) = true
    case pos =>
      rw [if_pos hg, if_pos hg, List.map_cons, List.map_cons, ← ih]
      rfl
    case neg =>
      rw [if_neg hg, if_neg hg]
      exact ih

end Groups

section Codes

def sectionSearchers (d : Database) : List SectionSearcher :=
  (listed d).map sectionSearcher

theorem searchersOf_eq (d : Database) : searchersOf d =
    (sectionSearchers d).map .one ++ groups.filterMap (groupSearcher? (sectionSearchers d)) :=
  rfl

theorem sectionCodes_sectionSearchers (d : Database) :
    sectionCodes (sectionSearchers d) = (listed d).map (·.code) := by
  simp only [sectionCodes, sectionSearchers, List.map_map]
  rfl

theorem mem_sectionCodes : k ∈ sectionCodes (sectionSearchers d) ↔ k ∈ d.codes := by
  rw [sectionCodes_sectionSearchers, mem_listed]

theorem map_code_searchersOf (d : Database) : (searchersOf d).map Searcher.code =
    (listed d).map (·.code) ++ (groups.filter fun g => g.2.any (· ∈ d.codes)).map (·.1) := by
  rw [searchersOf_eq, List.map_append, map_code_groups, List.map_map,
    ← sectionCodes_sectionSearchers]
  simp only [mem_sectionCodes]
  rfl

theorem groups_nodup : (groups.map (·.1)).Nodup := by
  decide

theorem nodup_codes (h : d.Distinct) : ((searchersOf d).map Searcher.code).Nodup := by
  rw [map_code_searchersOf]
  refine (nodup_listed h).append (groups_nodup.sublist (List.filter_sublist.map _)) ?_
  intro k hk hk'
  exact h.apart k (mem_listed.mp hk) ((List.filter_sublist.map _).subset hk')

theorem find?_eq_some_iff (h : d.Distinct) {s : Searcher} :
    (ofDatabase d).find? k = some s ↔ s ∈ searchersOf d ∧ s.code = k :=
  find?_key_eq_some_iff (nodup_codes h)

theorem find?_isSome_iff :
    ((ofDatabase d).find? k).isSome ↔ k ∈ (searchersOf d).map Searcher.code :=
  find?_key_isSome_iff

theorem find?_of_not_group (hk : k ∉ groups.map (·.1)) : (ofDatabase d).find? k =
    ((sectionSearchers d).find? (·.archive.code == k)).map .one := by
  have hnone : (groups.filterMap (groupSearcher? (sectionSearchers d))).find? (·.code == k) =
      none := by
    apply Option.not_isSome_iff_eq_none.mp
    rw [find?_key_isSome_iff, map_code_groups]
    exact fun hm => hk ((List.filter_sublist.map _).subset hm)
  have hfind : (ofDatabase d).find? k = (searchersOf d).find? (·.code == k) := rfl
  rw [hfind, searchersOf_eq, List.find?_append, hnone, Option.or_none, List.find?_map]
  rfl

theorem find?_section (h : d.Distinct) {m : SectionSearcher} (hm : m ∈ sectionSearchers d) :
    (ofDatabase d).find? m.archive.code = some (.one m) :=
  (find?_eq_some_iff h).mpr ⟨List.mem_append_left _ (List.mem_map_of_mem hm), rfl⟩

theorem find?_group (h : d.Distinct) {g : Text × List Text} (hg : g ∈ groups) :
    (ofDatabase d).find? g.1 = groupSearcher? (sectionSearchers d) g := by
  apply Option.ext
  intro s
  rw [find?_eq_some_iff h, searchersOf_eq, List.mem_append, List.mem_map, List.mem_filterMap]
  constructor
  case mp =>
    rintro ⟨⟨m, hm, rfl⟩ | ⟨g', hg', hs⟩, hcode⟩
    · have hmem : m.archive.code ∈ d.codes := mem_sectionCodes.mp (List.mem_map_of_mem hm)
      have hcode : m.archive.code = g.1 := hcode
      exact absurd (List.mem_map_of_mem hg) (hcode ▸ h.apart _ hmem)
    · have hcode' : g'.1 = g.1 := by
        rw [← hcode, eq_several_of_groupSearcher? hs]
        rfl
      rwa [← List.inj_on_of_nodup_map groups_nodup hg' hg hcode']
  case mpr =>
    intro hs
    refine ⟨.inr ⟨g, hg, hs⟩, ?_⟩
    rw [eq_several_of_groupSearcher? hs]
    rfl

end Codes

section Loading

def loads (c : Catalog) : List Database → Catalog × List Bool
  | []      => (c, [])
  | d :: ds =>
    let (c, answer)  := c.load d
    let (c, answers) := c.loads ds
    (c, answer :: answers)

theorem load_of_loaded (h : c.loaded = true) (d : Database) : c.load d = (c, false) :=
  if_pos h

theorem loads_of_loaded (h : c.loaded = true) (ds : List Database) :
    c.loads ds = (c, ds.map fun _ => false) := by
  induction ds with
  | nil => rfl
  | cons d ds ih =>
    rw [loads, load_of_loaded h]
    dsimp only
    rw [ih, List.map_cons]

theorem loads_cons (d : Database) (ds : List Database) :
    loads {} (d :: ds) = (ofDatabase d, true :: ds.map fun _ => false) := by
  have hload : load {} d = (ofDatabase d, true) := rfl
  have hloaded : (ofDatabase d).loaded = true := rfl
  rw [loads, hload]
  dsimp only
  rw [loads_of_loaded hloaded]

end Loading

-- A new catalog lists the sections of the first database that it loads, whatever their order: those
-- with known codes, in the order of these, then the others by the bytes of their codes, and then
-- the groups that have members, each with its members in the order that it lists them. A searcher
-- is found just by its own code. No later database changes anything.
theorem ofDatabase_catalog (d : Database) (h : d.Distinct) :
    (∃ others : List Text,
      others.Pairwise (fun i j => Text.utf8 i < Text.utf8 j) ∧
      (∀ k, k ∈ others ↔ k ∈ d.codes ∧ k ∉ knownCodes) ∧
      (ofDatabase d).searchers.map Searcher.code = knownCodes.filter (· ∈ d.codes) ++ others ++
        (groups.filter fun g => g.2.any (· ∈ d.codes)).map (·.1)) ∧
    (∀ g ∈ groups, ∀ s, (ofDatabase d).find? g.1 = some s → ∃ ms, s = .several g.1 ms ∧
      ms.map (·.archive.code) = g.2.filter (· ∈ d.codes) ∧
      ∀ m ∈ ms, (ofDatabase d).find? m.archive.code = some (.one m)) ∧
    (∀ s ∈ d.sections.values, (ofDatabase d).find? s.code = some (.one (sectionSearcher s))) ∧
    (∀ k, ((ofDatabase d).find? k).isSome ↔ k ∈ (ofDatabase d).searchers.map Searcher.code) ∧
    (∀ k s, (ofDatabase d).find? k = some s → s.code = k) ∧
    (∀ d', d'.sections.values.Perm d.sections.values → ofDatabase d' = ofDatabase d) ∧
    ∀ ds, loads {} (d :: ds) = (ofDatabase d, true :: ds.map fun _ => false) := by
  refine ⟨?codes, ?groups, ?sections, fun _ => find?_isSome_iff, ?own, ?order, loads_cons d⟩
  case codes =>
    obtain ⟨others, hbytes, hothers, hlist⟩ := exists_map_code_listed h
    exact ⟨others, hbytes, hothers, hlist ▸ map_code_searchersOf d⟩
  case groups =>
    intro g hg s hs
    rw [find?_group h hg] at hs
    have hcodes := @map_code_members (sectionSearchers d) g.2
    simp only [mem_sectionCodes] at hcodes
    refine ⟨_, eq_several_of_groupSearcher? hs, hcodes, fun m hm => ?_⟩
    exact find?_section h (mem_of_mem_members hm)
  case sections =>
    intro s hs
    exact find?_section h (List.mem_map_of_mem ((listed_perm d).mem_iff.mpr hs))
  case own => exact fun k s hs => ((find?_eq_some_iff h).mp hs).2
  case order =>
    intro d' hperm
    have hlisted : sectionSearchers d' = sectionSearchers d := by
      rw [sectionSearchers, listed_eq_of_perm h hperm, sectionSearchers]
    have hsearchers : searchersOf d' = searchersOf d := by
      rw [searchersOf_eq, hlisted, searchersOf_eq]
    exact congrArg (fun searchers => ({ searchers, loaded := true } : Catalog)) hsearchers

def fourSections : Database where
  sections := .ofList [
    (['1'], { code := ['ü'], name := ['n'] }),
    (['2'], { code := ['x'], name := ['e'], items := [{ blobs := [['^', 'a', '^']] }] }),
    (['3'], { code := ['z', 'z'], name := ['n'] }),
    (['4'], { code := ['k'], name := ['t'], items := [{ blobs := [['a']] }, { blobs := [] }] })]

theorem fourSections_distinct : fourSections.Distinct :=
  ⟨by decide, by decide⟩

theorem ofDatabase_catalog_fourSections : fourSections.Distinct ∧
    (∃ others : List Text,
      others.Pairwise (fun i j => Text.utf8 i < Text.utf8 j) ∧
      (∀ k, k ∈ others ↔ k = ['ü'] ∨ k = ['z', 'z']) ∧
      (ofDatabase fourSections).searchers.map Searcher.code =
        [['k'], ['x']] ++ others ++ ["multi-tag".toList, "all".toList]) ∧
    loads {} [fourSections, {}] = (ofDatabase fourSections, [true, false]) := by
  obtain ⟨⟨others, hbytes, hothers, hlist⟩, -, -, -, -, -, hloads⟩ :=
    ofDatabase_catalog fourSections fourSections_distinct
  refine ⟨fourSections_distinct, ⟨others, hbytes, fun k => ?_, hlist⟩, hloads [{}]⟩
  have hunknown : ∀ k ∈ fourSections.codes, k ∉ knownCodes → k = ['ü'] ∨ k = ['z', 'z'] := by
    decide
  rw [hothers]
  constructor
  case mp => exact fun ⟨hk, hk'⟩ => hunknown k hk hk'
  case mpr =>
    rintro (rfl | rfl)
    · decide
    · decide

end Catalog
end ExcerptSearch

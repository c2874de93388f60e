import ExcerptSearch.Proofs.Search.Fields
import Mathlib.Data.List.Sigma

namespace ExcerptSearch

namespace Facets

variable {α : Type} [Score α] {facet f : Facet} {l : List Text} {n : Nat} {item : Item}

theorem eq_of_mem_ofFields {p : Facet × FacetText α} (hp : p ∈ ofFields facet l n) :
    ofFields facet l n = [p] ∧ l ≠ [] ∧ p.1 = facet ∧ p.2.count = (n : α) := by
  cases l with
  | nil => exact nomatch hp
  | cons t l =>
    have heq := List.mem_singleton.mp hp
    subst heq
    exact ⟨rfl, List.cons_ne_nil t l, rfl, rfl⟩

theorem uniqueTeachers_pos (h : item.uniqueTeachers ≠ some 0) (hl : l ≠ []) :
    0 < item.uniqueTeachers.getD l.length := by
  cases hunique : item.uniqueTeachers with
  | none => exact List.length_pos_iff.mpr hl
  | some n =>
    cases n with
    | zero => exact absurd hunique h
    | succ n => exact Nat.succ_pos n

theorem lookup_ofFields_self : (ofFields facet l n : List (Facet × FacetText α)).lookup facet =
    if l = [] then none else some ⟨l.flatten, (n : α)⟩ := by
  cases l <;> simp [ofFields]

theorem lookup_ofFields_of_ne (h : f ≠ facet) :
    (ofFields facet l n : List (Facet × FacetText α)).lookup f = none := by
  have hf : (f == facet) = false := beq_eq_false_iff_ne.mpr h
  cases l <;> simp [ofFields, List.lookup_cons, hf]

theorem lookup_ofTexts (h : ∀ i, f ≠ .text i) (blobs : List Text) :
    (ofTexts blobs : List (Facet × FacetText α)).lookup f = none := by
  refine List.lookup_eq_none_iff.mpr fun p hp => ?_
  have ⟨(_, i), _, hp⟩ := List.mem_map.mp hp
  exact hp ▸ bne_iff_ne.mpr (h i)

def questionTags (item : Item) : List Text :=
  distinctFields tags (item.blobs.head?.toList.map (Text.before sideMarker))

def answerTags (item : Item) : List Text :=
  (distinctFields tags item.blobs).filter (!(questionTags item).contains ·)

theorem entries_ofItem (item : Item) : (ofItem item : Facets α).entries =
    ofFields .featuredTag (distinctFields featuredTags item.blobs)
        (distinctFields featuredTags item.blobs).length ++
      ofFields .questionTag (questionTags item) (questionTags item).length ++
      ofFields .answerTag (answerTags item)
        ((answerTags item).length + (questionTags item).length) ++
      ofFields .teacher (distinctFields teachers item.blobs)
        (item.uniqueTeachers.getD (distinctFields teachers item.blobs).length) ++
      ofTexts item.blobs :=
  rfl

theorem get?_question : (ofItem item : Facets α).get? .questionTag =
    if questionTags item = [] then none
    else some ⟨(questionTags item).flatten, ((questionTags item).length : α)⟩ := by
  simp [get?, entries_ofItem, List.lookup_append, lookup_ofFields_self, lookup_ofFields_of_ne,
    lookup_ofTexts]

theorem get?_answer : (ofItem item : Facets α).get? .answerTag =
    if answerTags item = [] then none
    else some ⟨(answerTags item).flatten,
      (((answerTags item).length + (questionTags item).length : Nat) : α)⟩ := by
  simp [get?, entries_ofItem, List.lookup_append, lookup_ofFields_self, lookup_ofFields_of_ne,
    lookup_ofTexts]

theorem get?_featured : (ofItem item : Facets α).get? .featuredTag =
    if distinctFields featuredTags item.blobs = [] then none
    else some ⟨(distinctFields featuredTags item.blobs).flatten,
      ((distinctFields featuredTags item.blobs).length : α)⟩ := by
  simp [get?, entries_ofItem, List.lookup_append, lookup_ofFields_self, lookup_ofFields_of_ne,
    lookup_ofTexts]

section Entries

theorem sublist_facets_ofFields :
    ((ofFields facet l n : List (Facet × FacetText α)).map (·.1)).Sublist [facet] := by
  cases l with
  | nil => exact List.nil_sublist [facet]
  | cons t l => exact .refl [facet]

theorem nodup_facets_ofTexts (blobs : List Text) :
    ((ofTexts blobs : List (Facet × FacetText α)).map (·.1)).Nodup := by
  have hplaces : (blobs.map textField?).zipIdx.Pairwise fun a b => a.2 ≠ b.2 :=
    List.pairwise_map.mp (List.nodup_zipIdx_map_snd _)
  simp only [ofTexts, List.map_map, List.Nodup, List.pairwise_map]
  refine List.pairwise_filterMap.mpr (hplaces.imp fun hne b hb b' hb' => ?_)
  obtain ⟨_, -, rfl⟩ := Option.map_eq_some_iff.mp hb
  obtain ⟨_, -, rfl⟩ := Option.map_eq_some_iff.mp hb'
  exact fun heq => hne (Facet.text.inj heq)

theorem nodup_facets (item : Item) : ((ofItem item : Facets α).entries.map (·.1)).Nodup := by
  have hsublist : ((ofItem item : Facets α).entries.map (·.1)).Sublist
      ([.featuredTag, .questionTag, .answerTag, .teacher] ++
        (ofTexts item.blobs : List (Facet × FacetText α)).map (·.1)) := by
    rw [entries_ofItem]
    simp only [List.map_append]
    exact (((sublist_facets_ofFields.append sublist_facets_ofFields).append
      sublist_facets_ofFields).append sublist_facets_ofFields).append (.refl _)
  refine hsublist.nodup (List.nodup_append.mpr ⟨by decide, nodup_facets_ofTexts _, ?_⟩)
  rintro facet hfacet _ htext rfl
  obtain ⟨_, hp, rfl⟩ := List.mem_map.mp htext
  obtain ⟨⟨_, i⟩, -, rfl⟩ := List.mem_map.mp hp
  exact absurd hfacet (by simp)

theorem get?_eq_some_iff {t : FacetText α} :
    (ofItem item : Facets α).get? facet = some t ↔
      (facet, t) ∈ (ofItem item : Facets α).entries := by
  rw [get?, List.lookup_eq_some_iff]
  constructor
  case mp =>
    rintro ⟨front, back, hentries, -⟩
    simp [hentries]
  case mpr =>
    intro h
    obtain ⟨front, back, hentries⟩ := List.append_of_mem h
    refine ⟨front, back, hentries, fun p hp => ?_⟩
    have hnodup := nodup_facets (α := α) item
    rw [hentries, List.map_append, List.nodup_append] at hnodup
    have hne : p.1 ≠ facet := hnodup.2.2 p.1 (List.mem_map_of_mem hp) facet (by simp)
    exact bne_iff_ne.mpr hne.symm

end Entries

def tagsOf (f : Facets α) (facet : Facet) : List Text :=
  (f.get? facet).elim [] (tags ·.text)

theorem mem_questionTags {t : Text} : t ∈ questionTags item ↔
    (∃ first, item.blobs.head? = some first ∧ t ∈ tags (Text.before sideMarker first)) ∧
      t.any Char.isLower = true := by
  simp [questionTags, mem_distinctFields]

theorem tags_before_isPrefix (mark blob : Text) : tags (Text.before mark blob) <+: tags blob := by
  have ⟨w, hblob, _⟩ := Text.exists_eq_before_append mark blob
  have hprefix := (scans_fields '[' ']' (Text.before mark blob)).prefix_append w
  rwa [← hblob] at hprefix

theorem mem_questionTags_or_answerTags {t : Text} : t ∈ questionTags item ∨ t ∈ answerTags item ↔
    (∃ blob ∈ item.blobs, t ∈ tags blob) ∧ t.any Char.isLower = true := by
  have hall : t ∈ questionTags item → t ∈ distinctFields tags item.blobs := by
    intro h
    have ⟨⟨first, hfirst, ht⟩, hlower⟩ := mem_questionTags.mp h
    exact mem_distinctFields.mpr
      ⟨⟨first, List.mem_of_mem_head? hfirst, (tags_before_isPrefix _ first).subset ht⟩, hlower⟩
  rw [← mem_distinctFields]
  by_cases h : t ∈ questionTags item
  case pos => simp [h, hall]
  case neg => simp [h, answerTags]

theorem isField_of_mem_distinctFields {blobs : List Text} :
    ∀ t ∈ distinctFields tags blobs, IsField '[' ']' t := by
  intro t ht
  have ⟨⟨blob, _, ht⟩, _⟩ := mem_distinctFields.mp ht
  exact (scans_fields '[' ']' blob).isField ht

theorem tagsOf_question : (ofItem item : Facets α).tagsOf .questionTag = questionTags item := by
  have hfields : tags (questionTags item).flatten = questionTags item :=
    fields_flatten isField_of_mem_distinctFields
  unfold tagsOf
  rw [get?_question]
  split
  case isTrue h => exact h.symm
  case isFalse => exact hfields

theorem tagsOf_answer : (ofItem item : Facets α).tagsOf .answerTag = answerTags item := by
  have hfields : tags (answerTags item).flatten = answerTags item :=
    fields_flatten fun t ht => isField_of_mem_distinctFields t (List.mem_filter.mp ht).1
  unfold tagsOf
  rw [get?_answer]
  split
  case isTrue h => exact h.symm
  case isFalse => exact hfields

theorem sublist_distinctFields (blobs : List Text) :
    (distinctFields tags blobs).Sublist (blobs.flatMap tags) :=
  (sublist_eraseDups _).trans List.filter_sublist

theorem sublist_questionTags (item : Item) :
    (questionTags item).Sublist (item.blobs.flatMap tags) := by
  refine (sublist_distinctFields _).trans ?_
  cases item.blobs with
  | nil => exact .slnil
  | cons first blobs =>
    have hprefix := tags_before_isPrefix sideMarker first
    simpa using hprefix.sublist.trans (List.sublist_append_left _ (blobs.flatMap tags))

-- The tags of an item, divided into those of the question and those of the answer, each once and in
-- the order of the blobs. The question tags stand before the side marker of the first blob, and a
-- tag has a small ASCII letter.
structure DividesTags (item : Item) (question answer : List Text) : Prop where
  nodup_question : question.Nodup
  nodup_answer   : answer.Nodup
  disjoint       : ∀ t ∈ question, t ∉ answer
  mem_question   : ∀ t, t ∈ question ↔
    (∃ first part ts, item.blobs.head? = some first ∧ Text.IsBefore ['/', '/'] first part ∧
      Scans '[' ']' part ts ∧ t ∈ ts) ∧ t.any Char.isLower = true
  in_order       : ∃ tss, List.Forall₂ (Scans '[' ']') item.blobs tss ∧
    question.Sublist tss.flatten ∧ answer.Sublist tss.flatten ∧
    ∀ t, t ∈ question ∨ t ∈ answer ↔ t ∈ tss.flatten ∧ t.any Char.isLower = true

theorem forall₂_scans (blobs : List Text) : List.Forall₂ (Scans '[' ']') blobs (blobs.map tags) :=
  List.forall₂_map_right_iff.mpr (List.forall₂_same.mpr fun _ _ => scans_fields '[' ']' _)

theorem dividesTags (item : Item) : DividesTags item (questionTags item) (answerTags item) where
  nodup_question := nodup_distinctFields
  nodup_answer   := nodup_distinctFields.filter _
  disjoint       := fun t hquestion hanswer => by simp [answerTags, hquestion] at hanswer
  mem_question   := by
    intro t
    rw [mem_questionTags]
    refine and_congr_left' ⟨?_, ?_⟩
    case refine_1 =>
      rintro ⟨first, hfirst, ht⟩
      have hpart := (Text.isBefore_iff (t := first) (List.cons_ne_nil '/' ['/'])).mpr rfl
      exact ⟨first, _, _, hfirst, hpart, scans_fields '[' ']' _, ht⟩
    case refine_2 =>
      rintro ⟨first, part, ts, hfirst, hpart, hts, ht⟩
      obtain rfl := (Text.isBefore_iff (List.cons_ne_nil '/' ['/'])).mp hpart
      obtain rfl := hts.eq_fields
      exact ⟨first, hfirst, ht⟩
  in_order       := by
    refine ⟨item.blobs.map tags, forall₂_scans _, ?_⟩
    rw [← List.flatMap_def]
    refine ⟨sublist_questionTags item, List.filter_sublist.trans (sublist_distinctFields _), ?_⟩
    simpa using fun t => mem_questionTags_or_answerTags

-- The tags in the texts of the two facets are the tags of the item, divided. The texts are made of
-- them, a facet without tags is left out, and the answer tags are relative to the number of all.
theorem tagsOf_ofItem (item : Item) : ∃ question answer,
    (ofItem item : Facets α).tagsOf .questionTag = question ∧
    (ofItem item : Facets α).tagsOf .answerTag = answer ∧
    Scans '[' ']' question.flatten question ∧ Scans '[' ']' answer.flatten answer ∧
    DividesTags item question answer ∧
    (ofItem item : Facets α).get? .questionTag = (if question = [] then none
      else some ⟨question.flatten, (question.length : α)⟩) ∧
    (ofItem item : Facets α).get? .answerTag = (if answer = [] then none
      else some ⟨answer.flatten, ((question.length + answer.length : Nat) : α)⟩) := by
  have hquestion : Scans '[' ']' (questionTags item).flatten (questionTags item) :=
    scans_flatten isField_of_mem_distinctFields
  have hanswer : Scans '[' ']' (answerTags item).flatten (answerTags item) :=
    scans_flatten fun t ht => isField_of_mem_distinctFields t (List.mem_filter.mp ht).1
  exact ⟨_, _, tagsOf_question, tagsOf_answer, hquestion, hanswer, dividesTags item, get?_question,
    Nat.add_comm _ _ ▸ get?_answer⟩

theorem tagsOf_ofItem_several : ∃ question answer,
    question = ["[a]".toList] ∧ answer = ["[b]".toList, "[x[y]".toList] ∧
    DividesTags { blobs := ["[a] [A] [a]//[b]".toList, "[x[y] [a]".toList] } question answer ∧
    (ofItem { blobs := ["[a] [A] [a]//[b]".toList, "[x[y] [a]".toList] } : Facets Rat).get?
      .questionTag = some ⟨"[a]".toList, 1⟩ ∧
    (ofItem { blobs := ["[a] [A] [a]//[b]".toList, "[x[y] [a]".toList] } : Facets Rat).get?
      .answerTag = some ⟨"[b][x[y]".toList, 3⟩ := by
  have ⟨question, answer, hquestion, hanswer, _, _, hdivides, hget, hget'⟩ :=
    @tagsOf_ofItem Rat _ { blobs := ["[a] [A] [a]//[b]".toList, "[x[y] [a]".toList] }
  have hpart : tags "[a] [A] [a]".toList = ["[a]".toList, "[A]".toList, "[a]".toList] := by
    decide_cbv
  have hfirst : tags "[a] [A] [a]//[b]".toList =
      ["[a]".toList, "[A]".toList, "[a]".toList, "[b]".toList] := by decide_cbv
  have hsecond : tags "[x[y] [a]".toList = ["[x[y]".toList, "[a]".toList] := by decide_cbv
  have hq : question = ["[a]".toList] := by
    rw [← hquestion, tagsOf_question]
    calc questionTags { blobs := ["[a] [A] [a]//[b]".toList, "[x[y] [a]".toList] }
      _ = (List.filter (·.any Char.isLower) (tags "[a] [A] [a]".toList ++ [])).eraseDups := rfl
      _ = ["[a]".toList] := by rw [hpart]; rfl
  have ha : answer = ["[b]".toList, "[x[y]".toList] := by
    rw [← hanswer, tagsOf_answer, answerTags, ← tagsOf_question (α := Rat), hquestion, hq]
    calc (distinctFields tags ["[a] [A] [a]//[b]".toList, "[x[y] [a]".toList]).filter
          fun t => ! ["[a]".toList].contains t
      _ = (List.filter (·.any Char.isLower) (tags "[a] [A] [a]//[b]".toList ++
          (tags "[x[y] [a]".toList ++ []))).eraseDups.filter fun t =>
            ! ["[a]".toList].contains t := rfl
      _ = ["[b]".toList, "[x[y]".toList] := by rw [hfirst, hsecond]; rfl
  subst hq ha
  exact ⟨_, _, rfl, rfl, hdivides, hget, hget'⟩

end Facets
end ExcerptSearch

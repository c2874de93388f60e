import ExcerptSearch.Text

namespace ExcerptSearch

-- A finite map whose keys are texts. As the keys ascend, it has just one list of entries.
structure Dictionary (α : Type) where
  entries   : List (Text × α)
  ascending : entries.Pairwise fun e f => e.1 < f.1

namespace Dictionary

variable {α : Type} {k : Text} {a : α} {e : Text × α} {l : List (Text × α)}

def empty : Dictionary α :=
  ⟨[], .nil⟩

def insertEntry (k : Text) (a : α) : List (Text × α) → List (Text × α)
  | []             => [(k, a)]
  | (l, b) :: rest =>
    if k < l then (k, a) :: (l, b) :: rest
    else if k = l then (k, a) :: rest
    else (l, b) :: insertEntry k a rest

theorem eq_or_mem_of_mem_insertEntry (h : e ∈ insertEntry k a l) : e = (k, a) ∨ e ∈ l := by
  induction l with
  | nil => exact .inl (List.mem_singleton.mp h)
  | cons f l ih =>
    simp only [insertEntry] at h
    split at h
    · exact List.mem_cons.mp h
    · split at h
      · exact (List.mem_cons.mp h).imp_right (.tail f)
      · obtain rfl | h := List.mem_cons.mp h
        · exact .inr (.head l)
        · exact (ih h).imp_right (.tail f)

theorem pairwise_insertEntry (h : l.Pairwise fun e f => e.1 < f.1) :
    (insertEntry k a l).Pairwise fun e f => e.1 < f.1 := by
  induction l with
  | nil => exact List.pairwise_singleton _ _
  | cons f l ih =>
    have ⟨hf, hl⟩ := List.pairwise_cons.mp h
    simp only [insertEntry]
    split
    case isTrue hlt =>
      refine List.pairwise_cons.mpr ⟨fun e he => ?_, h⟩
      obtain rfl | he := List.mem_cons.mp he
      · exact hlt
      · exact List.lt_trans hlt (hf e he)
    case isFalse hlt =>
      split
      case isTrue heq => exact List.pairwise_cons.mpr ⟨fun e he => heq ▸ hf e he, hl⟩
      case isFalse hne =>
        refine List.pairwise_cons.mpr ⟨fun e he => ?_, ih hl⟩
        obtain rfl | he := eq_or_mem_of_mem_insertEntry he
        · exact (List.le_iff_lt_or_eq.mp (List.not_lt.mp hlt)).resolve_right (Ne.symm hne)
        · exact hf e he

def insert (d : Dictionary α) (k : Text) (a : α) : Dictionary α :=
  ⟨insertEntry k a d.entries, pairwise_insertEntry d.ascending⟩

def ofList (l : List (Text × α)) : Dictionary α :=
  l.foldl (fun d e => d.insert e.1 e.2) empty

def get? (d : Dictionary α) (k : Text) : Option α :=
  d.entries.lookup k

def values (d : Dictionary α) : List α :=
  d.entries.map (·.2)

def isEmpty (d : Dictionary α) : Bool :=
  d.entries.isEmpty

end Dictionary
end ExcerptSearch

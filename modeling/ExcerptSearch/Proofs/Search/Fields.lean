import ExcerptSearch.Proofs.Text
import ExcerptSearch.Search.Facets

namespace ExcerptSearch

section Scan

variable {o q : Char} {body rest s t u w : Text} {ts : List Text}

theorem fieldsThen_eq : fieldsThen o q t = match Text.through? o t with
    | none           => []
    | some (_, rest) => match Text.through? q rest with
      | none                  => []
      | some (content, rest') => (o :: content, rest') :: fieldsThen o q rest' := by
  rw [fieldsThen.eq_def]
  split
  case h_1 h => rw [h]
  case h_2 h =>
    rw [h]
    split
    case h_1 h' => simp only [h']
    case h_2 h' => simp only [h']

theorem fieldsThen_of_not_mem (ho : o ∉ t) : fieldsThen o q t = [] := by
  rw [fieldsThen_eq, Text.through?_eq_none_iff.mpr ho]

theorem fieldsThen_unclosed (ho : o ∉ u) (hq : q ∉ rest) :
    fieldsThen o q (u ++ o :: rest) = [] := by
  rw [fieldsThen_eq, Text.through?_append ho]
  simp only [Text.through?_eq_none_iff.mpr hq]

theorem fieldsThen_closed (ho : o ∉ u) (hq : q ∉ body) :
    fieldsThen o q (u ++ o :: (body ++ q :: rest)) =
      (o :: (body ++ [q]), rest) :: fieldsThen o q rest := by
  rw [fieldsThen_eq, Text.through?_append ho]
  simp only [Text.through?_append hq]

end Scan

section Fields

variable {o q : Char} {body rest s t u w : Text} {ts : List Text}

theorem fields_closed (ho : o ∉ u) (hq : q ∉ body) :
    fields o q (u ++ o :: (body ++ q :: rest)) = (o :: (body ++ [q])) :: fields o q rest := by
  rw [fields, fieldsThen_closed ho hq]
  rfl

-- `Scans o q t ts` says that `ts` are the fields of `t` from left to right. The first begins with
-- the first `o` and ends with the next `q`, and the others are those of the text behind it.
inductive Scans (o q : Char) : Text → List Text → Prop
  | last {t : Text} : (∀ u rest, t = u ++ o :: rest → q ∉ rest) → Scans o q t []
  | next {u body rest : Text} {ts : List Text} : o ∉ u → q ∉ body → Scans o q rest ts →
    Scans o q (u ++ o :: (body ++ q :: rest)) ((o :: (body ++ [q])) :: ts)

theorem not_mem_behind (ho : o ∉ u) (hq : q ∉ rest) {u' rest' : Text}
    (h : u ++ o :: rest = u' ++ o :: rest') : q ∉ rest' := by
  obtain ⟨v, -, hv⟩ | ⟨v, rfl, hv⟩ := List.append_eq_append_iff.mp h
  · cases v with
    | nil => exact (List.cons.inj hv).2 ▸ hq
    | cons d v =>
      have hrest := (List.cons.inj hv).2
      exact fun hm => hq (hrest ▸ List.mem_append_right v (.tail _ hm))
  · cases v with
    | nil => exact (List.cons.inj hv).2 ▸ hq
    | cons d v => exact absurd (by simp [(List.cons.inj hv).1]) ho

theorem scans_fields (o q : Char) (t : Text) : Scans o q t (fields o q t) := by
  fun_induction fieldsThen o q t with
  | case1 t h =>
    have ho : o ∉ t := Text.through?_eq_none_iff.mp h
    rw [fields, fieldsThen_of_not_mem ho, List.map_nil]
    exact .last fun u rest ht => absurd (ht ▸ by simp) ho
  | case2 t s rest h h' =>
    obtain ⟨u, hu, -, rfl⟩ := Text.eq_append_of_through? h
    have hrest : q ∉ rest := Text.through?_eq_none_iff.mp h'
    rw [fields, fieldsThen_unclosed hu hrest, List.map_nil]
    exact .last fun _ _ => not_mem_behind hu hrest
  | case3 t s rest h s' rest' h' ih =>
    obtain ⟨u, hu, -, rfl⟩ := Text.eq_append_of_through? h
    obtain ⟨body, hbody, -, rfl⟩ := Text.eq_append_of_through? h'
    rw [fields_closed hu hbody]
    exact .next hu hbody ih

theorem Scans.eq_fields (h : Scans o q t ts) : ts = fields o q t := by
  induction h with
  | @last t hnone =>
    by_cases ho : o ∈ t
    case neg => rw [fields, fieldsThen_of_not_mem ho, List.map_nil]
    case pos =>
      have ⟨u, rest, ht, hu⟩ := List.eq_append_cons_of_mem ho
      rw [ht, fields, fieldsThen_unclosed hu (hnone u rest ht), List.map_nil]
  | next ho hq _ ih => rw [fields_closed ho hq, ih]

def IsField (o q : Char) (t : Text) : Prop :=
  ∃ body, q ∉ body ∧ t = o :: (body ++ [q])

theorem Scans.isField (h : Scans o q s ts) (ht : t ∈ ts) : IsField o q t := by
  induction h with
  | last => exact nomatch ht
  | next _ hq _ ih =>
    cases ht with
    | head => exact ⟨_, hq, rfl⟩
    | tail _ ht => exact ih ht

theorem fields_flatten (h : ∀ t ∈ ts, IsField o q t) : fields o q ts.flatten = ts := by
  induction ts with
  | nil =>
    rw [fields, List.flatten_nil, fieldsThen_of_not_mem List.not_mem_nil]
    rfl
  | cons t ts ih =>
    obtain ⟨⟨body, hbody, rfl⟩, hts⟩ := List.forall_mem_cons.mp h
    have hjoin : (o :: (body ++ [q])) ++ ts.flatten = [] ++ o :: (body ++ q :: ts.flatten) := by
      simp
    rw [List.flatten_cons, hjoin, fields_closed List.not_mem_nil hbody, ih hts]

theorem scans_flatten (h : ∀ t ∈ ts, IsField o q t) : Scans o q ts.flatten ts := by
  have hscans := scans_fields o q ts.flatten
  rwa [fields_flatten h] at hscans

theorem Scans.prefix_append (h : Scans o q s ts) (w : Text) : ts <+: fields o q (s ++ w) := by
  induction h with
  | last => exact List.nil_prefix
  | @next u body rest ts ho hq _ ih =>
    have happend : u ++ o :: (body ++ q :: rest) ++ w = u ++ o :: (body ++ q :: (rest ++ w)) := by
      simp
    rw [happend, fields_closed ho hq]
    exact List.cons_prefix_cons.mpr ⟨rfl, ih⟩

end Fields

section Nested

variable {o q : Char} {body rest s u : Text}

-- Is a field open behind the text?
def LeavesOpen (o q : Char) (u : Text) : Prop :=
  ∃ v x, u = v ++ o :: x ∧ q ∉ x

theorem mem_fields_of_not_leavesOpen (rest : Text) (hq : q ∉ body) (hu : ¬LeavesOpen o q u) :
    o :: (body ++ [q]) ∈ fields o q (u ++ o :: (body ++ q :: rest)) := by
  induction hn : u.length using Nat.strong_induction_on generalizing u with
  | _ n ih =>
    by_cases ho : o ∈ u
    case neg =>
      rw [fields_closed ho hq]
      exact .head _
    case pos =>
      -- The first field of `u` is closed in `u`, and the scan goes on behind it.
      have ⟨v, x, hv, hvo⟩ := List.eq_append_cons_of_mem ho
      have hx : q ∈ x := by
        by_contra hx
        exact hu ⟨v, x, hv, hx⟩
      have ⟨y, z, hy, hyq⟩ := List.eq_append_cons_of_mem hx
      subst hv hy
      have hz : ¬LeavesOpen o q z := by
        rintro ⟨v', x', rfl, hx'⟩
        exact hu ⟨v ++ o :: (y ++ q :: v'), x', by simp, hx'⟩
      have hjoin : v ++ o :: (y ++ q :: z) ++ o :: (body ++ q :: rest) =
          v ++ o :: (y ++ q :: (z ++ o :: (body ++ q :: rest))) := by simp
      rw [hjoin, fields_closed hvo hyq]
      have hlength : z.length < n := by
        simp at hn
        omega
      exact .tail _ (ih _ hlength hz rfl)

theorem not_leavesOpen_append (body : Text) (hne : o ≠ q) (hu : ¬LeavesOpen o q u) :
    ¬LeavesOpen o q (body ++ q :: u) := by
  rintro ⟨v, x, hv, hx⟩
  obtain ⟨y, -, hy⟩ | ⟨y, -, hy⟩ := List.append_eq_append_iff.mp hv
  · cases y with
    | nil => exact hne (List.cons.inj hy).1.symm
    | cons d y =>
      have ⟨_, hy⟩ := List.cons.inj hy
      exact hu ⟨y, x, hy, hx⟩
  · cases y with
    | nil => exact hne (List.cons.inj hy).1
    | cons d y =>
      have ⟨_, hy⟩ := List.cons.inj hy
      exact hx (hy ▸ List.mem_append_right y (.head _))

theorem mem_fields_iff (hne : o ≠ q) (hq : q ∉ body) : o :: (body ++ [q]) ∈ fields o q s ↔
    ∃ u w, s = u ++ o :: (body ++ [q]) ++ w ∧ ¬LeavesOpen o q u := by
  constructor
  case mp =>
    have hscans := scans_fields o q s
    generalize fields o q s = ts at hscans
    intro h
    induction hscans with
    | last => exact nomatch h
    | @next v body' rest ts ho hq' _ ih =>
      obtain h | h := List.mem_cons.mp h
      · obtain rfl := List.append_cancel_right (List.cons.inj h).2
        refine ⟨v, rest, by simp, ?_⟩
        rintro ⟨y, x, rfl, -⟩
        simp at ho
      · have ⟨u, w, hrest, hu⟩ := ih h
        refine ⟨v ++ o :: (body' ++ q :: u), w, by simp [hrest], ?_⟩
        have hclosed := not_leavesOpen_append (v ++ o :: body') hne hu
        simpa using hclosed
  case mpr =>
    rintro ⟨u, w, rfl, hu⟩
    have hfound := mem_fields_of_not_leavesOpen w hq hu
    simpa using hfound

end Nested

section Distinct

variable {find : Text → List Text} {blobs : List Text} {t : Text}

theorem nodup_eraseDups : (l : List Text) → l.eraseDups.Nodup
  | [] => List.nodup_nil
  | a :: l => by
    have hfirst : a ∉ (l.filter fun b => !b == a).eraseDups := by
      rw [List.mem_eraseDups, List.mem_filter]
      simp
    rw [List.eraseDups_cons]
    exact List.nodup_cons.mpr ⟨hfirst, nodup_eraseDups _⟩
termination_by l => l.length
decreasing_by exact Nat.lt_succ_of_le (List.length_filter_le _ _)

theorem sublist_eraseDups : (l : List Text) → l.eraseDups.Sublist l
  | [] => .slnil
  | a :: l => by
    rw [List.eraseDups_cons]
    exact .cons_cons a ((sublist_eraseDups _).trans List.filter_sublist)
termination_by l => l.length
decreasing_by exact Nat.lt_succ_of_le (List.length_filter_le _ _)

theorem mem_distinctFields : t ∈ distinctFields find blobs ↔
    (∃ blob ∈ blobs, t ∈ find blob) ∧ t.any Char.isLower = true := by
  rw [distinctFields, List.mem_eraseDups, List.mem_filter, List.mem_flatMap]

theorem nodup_distinctFields : (distinctFields find blobs).Nodup :=
  nodup_eraseDups _

end Distinct
end ExcerptSearch

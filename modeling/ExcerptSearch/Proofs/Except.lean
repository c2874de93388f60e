import Mathlib.Data.List.Forall2

namespace ExcerptSearch

variable {ε α β : Type} {f : α → Except ε β} {as : List α} {bs : List β}

theorem bind_pure_eq_ok_iff {x : Except ε α} {g : α → β} {b : β} :
    (x >>= fun a => pure (g a)) = .ok b ↔ ∃ a, x = .ok a ∧ g a = b := by
  cases x with
  | error e => exact iff_of_false (fun h => nomatch h) fun ⟨_, h, _⟩ => nomatch h
  | ok a =>
    constructor
    case mp => exact fun h => ⟨a, rfl, Except.ok.inj h⟩
    case mpr =>
      rintro ⟨_, ⟨⟩, rfl⟩
      rfl

theorem mapM_eq_ok_iff : as.mapM f = .ok bs ↔ List.Forall₂ (fun a b => f a = .ok b) as bs := by
  induction as generalizing bs with
  | nil =>
    rw [List.mapM_nil, List.forall₂_nil_left_iff]
    exact ⟨fun h => (Except.ok.inj h).symm, fun h => h ▸ rfl⟩
  | cons a as ih =>
    rw [List.mapM_cons, List.forall₂_cons_left_iff]
    simp only [← ih]
    cases f a with
    | error e => exact iff_of_false (fun h => nomatch h) fun ⟨_, _, h, _⟩ => nomatch h
    | ok b =>
      cases as.mapM f with
      | error e => exact iff_of_false (fun h => nomatch h) fun ⟨_, _, _, h, _⟩ => nomatch h
      | ok bs' =>
        constructor
        case mp => exact fun h => ⟨b, bs', rfl, rfl, (Except.ok.inj h).symm⟩
        case mpr =>
          rintro ⟨_, _, ⟨⟩, ⟨⟩, rfl⟩
          rfl

theorem exists_mapM_iff : (∃ bs, as.mapM f = .ok bs) ↔ ∀ a ∈ as, ∃ b, f a = .ok b := by
  induction as with
  | nil => exact iff_of_true ⟨[], rfl⟩ fun _ h => nomatch h
  | cons a as ih =>
    rw [List.forall_mem_cons, ← ih]
    simp only [mapM_eq_ok_iff, List.forall₂_cons_left_iff]
    constructor
    case mp =>
      rintro ⟨_, b, bs, hb, hbs, rfl⟩
      exact ⟨⟨b, hb⟩, bs, hbs⟩
    case mpr =>
      rintro ⟨⟨b, hb⟩, bs, hbs⟩
      exact ⟨_, b, bs, hb, hbs, rfl⟩

end ExcerptSearch

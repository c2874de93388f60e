import ExcerptSearch.Proofs.Regex.Spelling

namespace ExcerptSearch.Regex.Parser
open State

variable {st : State} {negated : Bool} {name : Text}

def propertySet (p : Unicode.Property) (negated : Bool) : CharSet :=
  if negated then .compl (.property p) else .property p

theorem mem_propertySet {p : Unicode.Property} {c : Char} :
    (propertySet p negated).mem c = (p.holds c != negated) := by
  cases negated
  case false => simp [propertySet, CharSet.mem]
  case true => simp [propertySet, CharSet.mem]

theorem primitive?_property (p : Unicode.Property) (negated : Bool) :
    Flags.primitive? {} (.property p negated) = some (.set (propertySet p negated)) := by
  cases negated <;> rfl

theorem read?_propertyName (negated : Bool) (read : Text) (hname : '}' ∉ name) (hst : st.Ready {}) :
    State.read? { st with point := .escape (.propertyName negated read) } (name ++ ['}']) =
      (Escape.propertyNamed? (read ++ name)).map fun (p, unequal) =>
        st.push { regex := .set (propertySet p (negated != unequal)) } := by
  have hstep : ∀ read c, State.step? { st with point := .escape (.propertyName negated read) } c =
      State.readPoint? { st with point := .escape (.propertyName negated read) } c :=
    fun _ _ => step?_of_not_extended hst.comment (hst.flags ▸ rfl)
  induction name generalizing read with
  | nil =>
    rw [List.nil_append, read?_cons, hstep, List.append_nil]
    cases hp : Escape.propertyNamed? read with
    | none => simp [readPoint?, Escape.step?, hp]
    | some p =>
      have hr : st.flags.primitive? (.property p.1 (negated != p.2)) =
          some (.set (propertySet p.1 (negated != p.2))) := hst.flags ▸ primitive?_property _ _
      simp only [readPoint?, Escape.step?, beq_self_eq_true, if_true, hp, Option.map_some, hr]
      rfl
  | cons c name ih =>
    obtain ⟨hc, hname⟩ : '}' ≠ c ∧ '}' ∉ name := by simpa using hname
    have hread := ih (read ++ [c]) hname
    rw [List.append_assoc, List.singleton_append] at hread
    rw [List.cons_append, read?_cons, hstep, ← hread]
    simp [readPoint?, Escape.step?, Ne.symm hc]

theorem parse?_property (hname : '}' ∉ name) :
    parse? ('\\' :: (if negated then 'P' else 'p') :: '{' :: (name ++ ['}'])) =
      (Escape.propertyNamed? name).map fun (p, unequal) =>
        .set (propertySet p (negated != unequal)) := by
  have hopen : State.read? {} ['\\', if negated then 'P' else 'p', '{'] =
      some { point := .escape (.propertyName negated []) } := by
    cases negated <;> rfl
  have hready : State.Ready {} {} := ⟨rfl, rfl, _, rfl⟩
  have hread := read?_propertyName negated [] hname hready
  have happend : '\\' :: (if negated then 'P' else 'p') :: '{' :: (name ++ ['}']) =
      ['\\', if negated then 'P' else 'p', '{'] ++ (name ++ ['}']) := rfl
  rw [parse?, piece?, happend, read?_append, hopen, Option.bind_some, hread, List.nil_append]
  cases Escape.propertyNamed? name with
  | none => rfl
  | some p => rfl

theorem exists_parse?_property {p : Unicode.Property} {unequal : Bool} (hname : '}' ∉ name)
    (hp : Escape.propertyNamed? name = some (p, unequal)) :
    ∃ r, parse? ('\\' :: (if negated then 'P' else 'p') :: '{' :: (name ++ ['}'])) = some r ∧
      ∀ u v w, r.Covers u v w ↔ ∃ c, v = [c] ∧ p.holds c = (negated == unequal) := by
  refine ⟨_, by rw [parse?_property hname, hp, Option.map_some], fun u v w => ?_⟩
  simp only [covers_set, mem_propertySet]
  cases negated <;> cases unequal <;> simp

end ExcerptSearch.Regex.Parser

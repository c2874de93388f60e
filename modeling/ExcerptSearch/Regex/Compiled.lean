import ExcerptSearch.Regex.Parser.Pattern
import ExcerptSearch.Regex.Search
import ExcerptSearch.Text

namespace ExcerptSearch.Regex

def byteRanges (t : Text) (ms : List Found) : List (Nat × Nat) :=
  let offsets := (Text.utf8Offsets 0 t).toArray
  ms.map fun m => (offsets.getD m.start 0, offsets.getD m.stop 0)

structure Compiled where
  source  : Text
  regex   : Regex
  program : Program
  denotes : parse? source = some regex
  built   : program = .ofRegex regex

namespace Compiled

def ofSource? (source : Text) : Option Compiled :=
  match h : parse? source with
  | some r => some ⟨source, r, .ofRegex r, h, rfl⟩
  | none   => none

theorem source_of_ofSource? {s : Text} {p : Compiled} (h : ofSource? s = some p) :
    p.source = s := by
  unfold ofSource? at h
  split at h <;> simp_all
  exact h ▸ rfl

theorem ofSource?_isSome {s : Text} : (ofSource? s).isSome = (parse? s).isSome := by
  unfold ofSource?
  split <;> simp_all

def isMatch (p : Compiled) (t : Text) : Bool :=
  p.program.isMatch t.toArray

theorem isMatch_iff {p : Compiled} {t : Text} :
    p.isMatch t = true ↔ ∃ i ≤ t.length, ∃ j, p.regex.Matches t.toArray i j := by
  simp [isMatch, p.built, Program.isMatch_iff]

def findAll (p : Compiled) (t : Text) : List Found :=
  p.program.findAll t.toArray

end Compiled
end ExcerptSearch.Regex

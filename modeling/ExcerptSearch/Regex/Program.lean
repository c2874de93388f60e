import ExcerptSearch.Regex.Basic

namespace ExcerptSearch.Regex

inductive Op where
  -- Reads a character of the set.
  | take (s : CharSet) (next : Nat)
  -- Goes on where the assertion holds.
  | test (l : Look) (next : Nat)
  | goto (next : Nat)
  -- Goes on in one of two ways, the first preferred.
  | fork (first second : Nat)
  deriving DecidableEq

namespace Op

def more (greedy : Bool) (copy out : Nat) : Op :=
  if greedy then fork copy out else fork out copy

end Op

def copiesCode (f : Nat → Nat → List Op) (size : Nat) : Nat → Nat → List Op
  | 0, _         => []
  | n + 1, start => f start (start + size) ++ copiesCode f size n (start + size)

def upToCode (f : Nat → Nat → List Op) (size : Nat) (greedy : Bool) (out : Nat) :
    Nat → Nat → List Op
  | 0, _         => []
  | n + 1, start =>
    .more greedy (start + 1) out :: f (start + 1) (start + 1 + size) ++
      upToCode f size greedy out n (start + 1 + size)

def oneOrMoreCode (f : Nat → Nat → List Op) (size : Nat) (greedy : Bool) (start out : Nat) :
    List Op :=
  f start (start + size) ++ [.more greedy start out]

def zeroOrMoreCode (f : Nat → Nat → List Op) (greedy : Bool) (start out : Nat) : List Op :=
  .more greedy (start + 1) out :: f (start + 1) start

def codeSize : Regex → Nat
  | empty                => 1
  | set _                => 1
  | look _               => 1
  | group _ r            => r.codeSize
  | cat r s              => r.codeSize + s.codeSize
  | alt r s              => 1 + (r.codeSize + s.codeSize)
  | rep r m (some n) _   => m * r.codeSize + (n * (1 + r.codeSize) + 1)
  | rep r 0 none _       => if r.minSize = 0 then 1 + (r.codeSize + 1) else 1 + r.codeSize
  | rep r (m + 1) none _ => m * r.codeSize + (r.codeSize + 1)

-- The operations of an expression. Any number of copies of an expression that needs no character is
-- one copy or more, or nothing: a copy that is empty then does not keep a later one from its turn.
def code : Regex → Nat → Nat → List Op
  | empty, _, out                    => [.goto out]
  | set s, _, out                    => [.take s out]
  | look l, _, out                   => [.test l out]
  | group _ r, start, out            => r.code start out
  | cat r s, start, out              =>
    r.code start (start + r.codeSize) ++ s.code (start + r.codeSize) out
  | alt r s, start, out              =>
    .fork (start + 1) (start + 1 + r.codeSize) ::
      (r.code (start + 1) out ++ s.code (start + 1 + r.codeSize) out)
  | rep r m (some n) greedy, start, out =>
    copiesCode r.code r.codeSize m start ++
      (upToCode r.code r.codeSize greedy (start + m * r.codeSize + n * (1 + r.codeSize)) n
          (start + m * r.codeSize) ++
        [.goto out])
  | rep r 0 none greedy, start, out =>
    if r.minSize = 0 then
      .more greedy (start + 1) out :: oneOrMoreCode r.code r.codeSize greedy (start + 1) out
    else zeroOrMoreCode r.code greedy start out
  | rep r (m + 1) none greedy, start, out =>
    copiesCode r.code r.codeSize m start ++
      oneOrMoreCode r.code r.codeSize greedy (start + m * r.codeSize) out

structure Program where
  ops : Array Op
  deriving DecidableEq

namespace Program

def ofRegex (r : Regex) : Program :=
  ⟨(r.code 0 r.codeSize).toArray⟩

def accept (p : Program) : Nat :=
  p.ops.size

def silent (p : Program) (h : Array Char) (i a : Nat) : List Nat :=
  match p.ops[a]? with
  | some (.test l next)         => if l.holds h i then [next] else []
  | some (.goto next)           => [next]
  | some (.fork first second)   => [first, second]
  | some (.take _ _)            => []
  | none                        => []

def taken? (p : Program) (h : Array Char) (i a : Nat) : Option Nat :=
  match p.ops[a]? with
  | some (.take s next) => if h[i]?.any s.mem then some next else none
  | _                   => none

inductive Run (p : Program) (h : Array Char) : Nat → Nat → Nat → Nat → Nat → Prop
  | zero (a i : Nat) : Run p h 0 a i a i
  | silent {n a i b c k : Nat} : b ∈ p.silent h i a → Run p h n b i c k → Run p h (n + 1) a i c k
  | taken {n a i b c k : Nat} :
    p.taken? h i a = some b → Run p h n b (i + 1) c k → Run p h (n + 1) a i c k

end Program
end ExcerptSearch.Regex

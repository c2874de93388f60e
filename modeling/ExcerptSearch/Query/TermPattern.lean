import ExcerptSearch.Regex.Compiled

namespace ExcerptSearch

inductive TagScope where
  | any
  | question
  | answer
  -- On both sides at once, which is nowhere.
  | never
  deriving DecidableEq

namespace TagScope

def restrict : TagScope → TagScope → TagScope
  | any, s => s
  | s, any => s
  | s, t   => if s = t then s else never

def markerFollows : Text :=
  ['(', '?', '=', '.', '*', '/', '/', ')']

def noMarkerFollows : Text :=
  ['(', '?', '!', '.', '*', '/', '/', ')']

def print : TagScope → Text
  | any      => []
  | question => markerFollows
  | answer   => noMarkerFollows
  | never    => markerFollows ++ noMarkerFollows

end TagScope

def sideMarker : Text :=
  ['/', '/']

structure TermPattern where
  pattern : Regex.Compiled
  scope   : TagScope

namespace TermPattern

def ofSource? (source : Text) (scope : TagScope) : Option TermPattern :=
  (Regex.Compiled.ofSource? source).map (⟨·, scope⟩)

def source (p : TermPattern) : Text :=
  p.pattern.source

-- Does the pattern match in the text, on its side of the last marker? A match is on the question
-- side if it stops before the marker, and on the answer side if it stops behind the place where the
-- marker starts. A text without a marker is all answer side.
def isMatch (p : TermPattern) (t : Text) : Bool :=
  match p.scope, Text.lastIndexOf? sideMarker t with
  | .any, _ | .answer, none => p.pattern.isMatch t
  -- A match that starts behind the marker stops behind it too, so there is no need to leave off at
  -- the first such match.
  | .question, some i       => (p.pattern.findAll t).any (·.stop ≤ i)
  | .answer, some i         => (p.pattern.findAll t).any (i < ·.stop)
  | .question, none | .never, _ => false

def fullWord? (p : TermPattern) : Option TermPattern :=
  ofSource? (['\\', 'b'] ++ p.source ++ ['\\', 'b']) p.scope

def print (p : TermPattern) : Text :=
  ['`'] ++ p.source ++ p.scope.print ++ ['`']

end TermPattern
end ExcerptSearch

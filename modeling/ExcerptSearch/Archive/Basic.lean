import ExcerptSearch.Dictionary

namespace ExcerptSearch

structure Item where
  blobs          : List Text
  -- The item as it is displayed.
  html           : Text := []
  -- The session that an excerpt belongs to.
  session        : Option Text := none
  -- The event that a session belongs to.
  event          : Option Text := none
  -- The number of teachers, where some appear under several names.
  uniqueTeachers : Option Nat := none

structure Section where
  code           : Text
  name           : Text
  items          : List Item := []
  -- What is displayed before the excerpts of a session.
  sessionHeaders : Dictionary Text := .empty
  -- What is displayed behind the sessions of an event.
  eventFooters   : Dictionary Text := .empty
  -- Words so frequent that to match them counts for less.
  commonWords    : Text := []

structure Database where
  sections : Dictionary Section := .empty

end ExcerptSearch

import SignalStub.Settings.Scalar

/-! # Tables of entries

    Variables are put together one after the other. What each of them gives goes under a key, in
    place of what an earlier one gave for it.
-/

namespace SignalStub.Settings

/-- What has been given for each key so far. -/
abbrev Table := List (String × Entry)

namespace Table

/-- Puts an entry under a key, in place of what was there. -/
def insert (key : String) (entry : Entry) (table : Table) : Table :=
  (key, entry) :: table.filter fun slot => slot.1 ≠ key

/-- What stands under a key. -/
def lookup? (table : Table) (key : String) : Option Entry :=
  table.lookup key

end Table

end SignalStub.Settings

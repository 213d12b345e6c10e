import Fleet.Service.Query
import Fleet.Stream.Source

/-!
# Options of lists and watches

What a caller may ask of a list or a watch beyond the kind. Options that say nothing ask for
everything in the default namespace.
-/

namespace Fleet

/-- What a caller may ask of a list. -/
structure ListOptions where
  ns : Option String := none
  selector : String := ""
  idPattern : Option IdPattern := none
  offset : Nat := 0
  /-- At most so many; zero for no limit. -/
  limit : Nat := 0
  sortBy : Option SortField := none
  descending : Bool := false
  search : List String := []
  /-- The token that ends the call and the stream. -/
  token : Option Token := none

/-- What a caller may ask of a watch. -/
structure WatchOptions where
  ns : Option String := none
  selector : String := ""
  id : Option String := none
  /-- How many past events are told first, at most. -/
  tail : Nat := 0
  /-- The token that ends the call and the stream. -/
  token : Option Token := none
  deriving DecidableEq, Repr

namespace ListOptions

/-- Ask for what a selector accepts, by its written form. -/
def withSelector (o : ListOptions) (s : Selector) : ListOptions :=
  { o with selector := s.text }

/-- Sort by a field, turned around if asked. -/
def sorted (o : ListOptions) (f : SortField) (descending : Bool) : ListOptions :=
  { o with sortBy := some f, descending }

end ListOptions

end Fleet

import SeriesCatalog.Text.Blank

/-!
# Policies for unbounded requests without conditions
-/

namespace SeriesCatalog

/-- What a request for all documents without any condition gets. -/
inductive Policy
  | countOnly
  | returnAll
  | nothing
deriving DecidableEq, Repr

namespace Policy

/-- The policy where none is set. -/
def standard : Policy := countOnly

def name : Policy → String
  | countOnly => "count-only"
  | returnAll => "return-all"
  | nothing => "omit"

/-- The policy with exactly this name. -/
def ofName? (s : String) : Option Policy :=
  if s = "count-only" then some countOnly
  else if s = "return-all" then some returnAll
  else if s = "omit" then some nothing
  else none

/-- The policy of a text, in which case and surrounding blanks do not matter and short
names are allowed.  An unknown name is returned. -/
def parse (s : String) : Except String Policy :=
  let name := (Text.trimBlanks s).map Char.toLower
  match ofName? name with
  | some p => .ok p
  | none =>
      if name = "count" then .ok countOnly
      else if name = "all" then .ok returnAll
      else if name = "none" then .ok nothing
      else .error name

/-- The complaint about an unknown name. -/
def unknown (name : String) : String :=
  "unknown empty-filter policy: " ++ name

end Policy

end SeriesCatalog

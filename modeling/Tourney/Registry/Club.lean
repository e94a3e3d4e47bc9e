import Tourney.Ident

/-!
# Clubs

A club is what teams may belong to. Teams name their club by its identifier.
-/

namespace Tourney

structure Club where
  id : Ident
  name : String
  notes : Option String
deriving DecidableEq

def Club.new (id : Ident) (name : String) : Club :=
  ⟨id, name, none⟩

end Tourney

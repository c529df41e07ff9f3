import Fieldwise.Format.Calendar
import Fieldwise.Reachability
import Fieldwise.Url.Reference

/-!
Contract: the libraries that the predicates rely on.

Owns: the reader of dates, the reader of addresses and the runtime that limits
waiting, as one parameter, with a default for each.

Does **not** own: what is known of a library. A statement that depends on that
says so.
-/

set_option autoImplicit false

namespace Fieldwise

class Libraries where
  dates : Format.DateReader
  addresses : Url.AddressReader
  timer : Timer

namespace Libraries

/-- The libraries where no others are given. -/
instance (priority := low) plain : Libraries where
  dates := .lenient
  addresses := .plain
  timer := .exact

end Libraries

end Fieldwise

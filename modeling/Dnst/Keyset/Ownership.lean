import Dnst.Keyset.Decoupled

/-! # Whose key material is removed

Key material that exists is only ever changed or removed for a coupled key that
remove-key is given, or for a key that is overdue when cron comes to it.
-/

namespace Dnst.Keyset

open Effect

section Invocation

variable {env : Environment} {system : System} {ref : KeyRef}

end Invocation

end Dnst.Keyset

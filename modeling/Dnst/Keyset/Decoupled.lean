import Dnst.Keyset.Reference
import Dnst.Keyset.Runs

/-! # Decoupled keys

A decoupled key is only listed by keyset; other signers may need its files. They
survive as long as neither remove-key nor cron is given a key that refers to them.
For coupled keys the staleness test of cron and that of remove-key are compared.
-/

namespace Dnst.Keyset

open Effect

/-! ## Material of decoupled keys -/

/-- The key is stored there, in whole or in part. -/
def RefersTo (platform : Platform) (pubref : String) (privref : Option String)
    (ref : KeyRef) : Prop :=
  ∃ reference url, (reference = pubref ∨ privref = some reference) ∧
    platform.parseUrl reference = .ok url ∧ url.keyRef = some ref

/-- A key that is marked as decoupled is stored there. -/
def DecoupledRef (platform : Platform) (keyset : KeySet) (ref : KeyRef) : Prop :=
  ∃ pubref key, (pubref, key) ∈ keyset.keys ∧ key.decoupled = true ∧
    RefersTo platform pubref key.privref ref

/-- Material that an invocation must not touch. -/
def Protected (platform : Platform) (system : System) (ref : KeyRef) : Prop :=
  DecoupledRef platform system.state.keyset ref ∧ system.keyStore ref ≠ none

/-- The protected material is as it was. -/
structure Untouched (platform : Platform) (system : System) (ws : WorkSpace) : Prop where
  keysDir : ws.config.keysDir = system.config.keysDir
  kept : ∀ ref, Protected platform system ref → ws.keyStore ref = system.keyStore ref

section Invocation

variable {env : Environment} {system : System}

end Invocation

/-! ## Two tests of staleness -/

namespace Reference

end Reference

end Dnst.Keyset

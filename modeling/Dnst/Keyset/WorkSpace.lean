import Dnst.Keyset.Environment

/-! # The workspace of an invocation

`WorkSpace` combines the configuration and the state that an invocation has
loaded with the files and the key material it acts on and the number of calls
it has made.
-/

namespace Dnst.Keyset

/-- The part of a TSIG key store that keyset consults. -/
structure TsigKeyStore where
  names : List Name
  deriving DecidableEq, Repr

structure WorkSpace where
  config : KeySetConfig
  state : KeySetState
  configChanged : Bool
  stateChanged : Bool
  runUpdateDsCommand : Bool
  tsigStore : TsigKeyStore
  /-- What the configuration and the state file hold. -/
  savedConfig : KeySetConfig
  savedState : KeySetState
  keyStore : KeyStore
  calls : Nat

abbrev Run (Value : Type) := Effect WorkSpace Fault Value

/-- Make calls that leave the rest of the workspace alone. -/
def perform {Value : Type} (step : Step Value) : Run Value :=
  Effect.zoom WorkSpace.calls (fun ws calls => { ws with calls }) step

theorem exec_perform {Value : Type} (step : Step Value) (ws : WorkSpace) :
    Effect.exec (perform step) ws =
      ((Effect.exec step ws.calls).1,
        { ws with calls := (Effect.exec step ws.calls).2 }) :=
  Effect.exec_zoom _ _ step ws

theorem exec_perform_eq_ok {Value : Type} {step : Step Value} {ws final : WorkSpace}
    {value : Value} (run : Effect.exec (perform step) ws = (.ok value, final)) :
    ∃ calls, Effect.exec step ws.calls = (.ok value, calls) ∧ final = { ws with calls } := by
  rw [exec_perform] at run
  rcases outcome : Effect.exec step ws.calls with ⟨result, calls⟩
  rw [outcome] at run
  cases run
  exact ⟨calls, rfl, rfl⟩

/-- Configured fake time or the current time. -/
def faketimeOrNow (env : Environment) (config : KeySetConfig) : Step UnixTime := do
  let call ← nextCall
  return config.faketime.getD (env.clock call)

/-- The clock that `KeySet` reads by itself. -/
def wallClock (env : Environment) : Step UnixTime := do
  let call ← nextCall
  return env.clock call

def setKeySet (keyset : KeySet) : Run Unit :=
  modify fun ws => { ws with state.keyset := keyset }

/-- Apply a `KeySet` operation, with the error message a failure gives rise to. -/
def onKeySet (message : String → String)
    (operation : KeySet → Except KeySetError KeySet) : Run Unit := do
  let ws ← get
  match operation ws.state.keyset with
  | .ok keyset => setKeySet keyset
  | .error reason => bail (message reason.display)

/-- A `KeySet` operation under `expect`. -/
def expectKeySet (message : String)
    (operation : KeySet → Except KeySetError KeySet) : Run Unit := do
  let ws ← get
  match operation ws.state.keyset with
  | .ok keyset => setKeySet keyset
  | .error reason => panic (expectMessage message reason.display)

/-- A step of a roll that returns the actions of the new state. -/
def onRoll (message : String → String)
    (operation : KeySet → Except KeySetError (List Action × KeySet)) :
    Run (List Action) := do
  let ws ← get
  match operation ws.state.keyset with
  | .ok (actions, keyset) => do
      setKeySet keyset
      return actions
  | .error reason => bail (message reason.display)

def markStateChanged : Run Unit :=
  modify fun ws => { ws with stateChanged := true }

def markConfigChanged : Run Unit :=
  modify fun ws => { ws with configChanged := true }

end Dnst.Keyset

import Dnst.Keyset.RrsigCheck

/-! # Waiting for serials

`checkSoa` waits while a name server is behind a serial, `checkNextSerial` until the
primary is ahead of one. Both refuse what is in the way instead of asking for what is
needed, which makes a difference for serials that cannot be compared.
-/

namespace Dnst.Keyset

open Effect
open SerialNumber (distance)

/-! ## The primary -/

theorem exec_refuseIf_ok_iff {State : Type} (condition : Bool) (message : String)
    (state : State) : (exec (refuseIf condition message) state).1 = .ok () ↔ condition = false := by
  cases condition with
  | true =>
      constructor
      · intro impossible
        cases impossible
      · intro impossible
        cases impossible
  | false => exact ⟨fun _ => rfl, fun _ => rfl⟩

/-- What the first address that answers has as its first SOA record. -/
def firstAnswer (env : Environment) (zone : Name) :
    Nat → List IpAddr → Option (Except String (Option Serial))
  | _, [] => none
  | call, address :: addresses =>
      match env.network.queryAt call address zone .soa with
      | .error _ => firstAnswer env zone (call + 1) addresses
      | .ok answers => some (firstSoa answers)

theorem nextSerialAtAddresses_iff (env : Environment) (zone : Name) (serial : Serial)
    (addresses : List IpAddr) : ∀ calls : Nat,
      (exec (nextSerialAtAddresses env zone serial addresses) calls).1 = .ok () ↔
        ∃ current, firstAnswer env zone calls addresses = some (.ok (some current)) ∧
          SerialNumber.le current serial = false := by
  induction addresses with
  | nil =>
      intro calls
      unfold firstAnswer
      constructor
      · intro impossible
        cases impossible
      · rintro ⟨_, impossible, _⟩
        cases impossible
  | cons address addresses induction =>
      intro calls
      have counted : exec nextCall calls = (.ok calls, calls + 1) := rfl
      rw [nextSerialAtAddresses, exec_bind_of_ok counted, firstAnswer]
      cases env.network.queryAt calls address zone .soa with
      | error reason => exact induction (calls + 1)
      | ok answers =>
          dsimp only
          cases firstSoa answers with
          | error reason =>
              constructor
              · intro impossible
                cases impossible
              · rintro ⟨_, impossible, _⟩
                cases impossible
          | ok found =>
              have read : exec (mapErr id (.ok found) : Step (Option Serial)) (calls + 1) =
                  (.ok found, calls + 1) := rfl
              rw [exec_bind_of_ok read]
              cases found with
              | none =>
                  constructor
                  · intro impossible
                    cases impossible
                  · rintro ⟨_, impossible, _⟩
                    cases impossible
              | some current =>
                  dsimp only
                  rw [exec_refuseIf_ok_iff]
                  constructor
                  · intro newer
                    exact ⟨current, rfl, newer⟩
                  · rintro ⟨_, same, newer⟩
                    cases same
                    exact newer

/-! ## Soundness -/

/-- Neither check succeeds on a serial that is older or cannot be compared. -/
structure FollowsSerials (env : Environment) (serial : Serial) (kss : KeySetState)
    (now : UnixTime) (calls : Nat) : Prop where
  soa : (exec (checkSoa env serial kss now) calls).1 = .ok () →
    ∀ addresses after, exec (addressesForZone env kss.keyset.name) calls = (.ok addresses, after) →
      ∀ answers, some answers ∈ responses env after kss.keyset.name .soa addresses →
        ∀ soa ∈ soaSerials answers, UpToDate serial soa.2
  next : (exec (checkNextSerial env serial kss) calls).1 = .ok () →
    ∃ addresses after current,
      exec (getPrimaryAddresses env kss.keyset.name) calls = (.ok addresses, after) ∧
        firstAnswer env kss.keyset.name after addresses = some (.ok (some current)) ∧
          SerialNumber.lt serial current = true

/-- No serial that decides is half the range away. -/
structure Comparables (env : Environment) (serial : Serial) (kss : KeySetState)
    (calls : Nat) : Prop where
  /-- Among name servers that all answer and of which none is behind. -/
  soa : AllServeSerial env kss.keyset.name (NotOlder serial) calls →
    AllServeSerial env kss.keyset.name (fun current => distance serial current ≠ 2 ^ 31) calls
  /-- In the first answer of the primary. -/
  next : ∀ addresses after current,
    exec (getPrimaryAddresses env kss.keyset.name) calls = (.ok addresses, after) →
      firstAnswer env kss.keyset.name after addresses = some (.ok (some current)) →
        distance serial current ≠ 2 ^ 31

section Soundness

variable {env : Environment} {serial : Serial} {kss : KeySetState} {now : UnixTime} {calls : Nat}

theorem checkSoa_ok_iff :
    (exec (checkSoa env serial kss now) calls).1 = .ok () ↔
      AllServeSerial env kss.keyset.name (NotOlder serial) calls := by
  rcases exec_checkSoa env serial kss now calls with ⟨serve, run⟩ | ⟨fails, reason, run⟩
  · exact ⟨fun _ => serve, fun _ => run⟩
  · constructor
    · intro ok
      rw [run] at ok
      cases ok
    · intro serve
      exact absurd serve fails

theorem checkNextSerial_ok_iff :
    (exec (checkNextSerial env serial kss) calls).1 = .ok () ↔
      ∃ addresses after current,
        exec (getPrimaryAddresses env kss.keyset.name) calls = (.ok addresses, after) ∧
          firstAnswer env kss.keyset.name after addresses = some (.ok (some current)) ∧
            SerialNumber.le current serial = false := by
  unfold checkNextSerial
  rcases found : exec (getPrimaryAddresses env kss.keyset.name) calls with
    ⟨fault | addresses, after⟩
  · rw [exec_bind_of_error found]
    constructor
    · intro impossible
      cases impossible
    · rintro ⟨_, _, _, impossible, _⟩
      cases impossible
  · rw [exec_bind_of_ok found, nextSerialAtAddresses_iff]
    constructor
    · rintro ⟨current, first, newer⟩
      exact ⟨addresses, after, current, rfl, first, newer⟩
    · rintro ⟨_, _, current, same, first, newer⟩
      cases same
      exact ⟨current, first, newer⟩

theorem upToDate_iff (serial current : Serial) :
    UpToDate serial current ↔ NotOlder serial current ∧ distance serial current ≠ 2 ^ 31 := by
  constructor
  · intro upToDate
    exact ⟨upToDate.notOlder, SerialNumber.distance_ne_of_le upToDate⟩
  · rintro ⟨notOlder, comparable⟩
    unfold NotOlder at notOlder
    unfold UpToDate
    rw [SerialNumber.le_eq_not_lt comparable, notOlder]
    rfl

theorem lt_iff_not_le (serial current : Serial) :
    SerialNumber.lt serial current = true ↔
      SerialNumber.le current serial = false ∧ distance serial current ≠ 2 ^ 31 := by
  constructor
  · intro newer
    have comparable := SerialNumber.distance_ne_of_lt newer
    rw [SerialNumber.le_eq_not_lt (SerialNumber.distance_ne_swap comparable), newer]
    exact ⟨rfl, comparable⟩
  · rintro ⟨notBehind, comparable⟩
    rw [SerialNumber.le_eq_not_lt (SerialNumber.distance_ne_swap comparable)] at notBehind
    simpa using notBehind

end Soundness

/-- Both checks are sound exactly as long as no serial that decides is half the range
away. -/
theorem followsSerials_iff (env : Environment) (serial : Serial) (kss : KeySetState)
    (now : UnixTime) (calls : Nat) :
    FollowsSerials env serial kss now calls ↔ Comparables env serial kss calls := by
  constructor
  · intro follows
    constructor
    · rintro ⟨addresses, after, found, serve⟩
      refine ⟨addresses, after, found, ?_⟩
      intro response member
      rcases serve response member with ⟨answers, same, nonempty, _⟩
      refine ⟨answers, same, nonempty, ?_⟩
      intro soa soaMember
      have ok := (@checkSoa_ok_iff env serial kss now calls).mpr ⟨addresses, after, found, serve⟩
      rw [same] at member
      have upToDate := follows.soa ok addresses after found answers member soa soaMember
      exact ((upToDate_iff serial soa.2).mp upToDate).2
    · intro addresses after current found first half
      have newer : SerialNumber.le current serial = false := by
        cases behind : SerialNumber.le current serial with
        | false => rfl
        | true =>
            have comparable := SerialNumber.distance_ne_of_le behind
            exact absurd half (SerialNumber.distance_ne_swap comparable)
      have ok := (@checkNextSerial_ok_iff env serial kss calls).mpr
        ⟨addresses, after, current, found, first, newer⟩
      rcases follows.next ok with ⟨_, _, other, same, sameFirst, ahead⟩
      rw [found] at same
      cases same
      rw [first] at sameFirst
      cases sameFirst
      exact ((lt_iff_not_le serial current).mp ahead).2 half
  · intro comparables
    constructor
    · intro ok addresses after found answers member soa soaMember
      have serve := (@checkSoa_ok_iff env serial kss now calls).mp ok
      rcases comparables.soa serve with ⟨_, _, same, comparable⟩
      rcases serve with ⟨_, _, same', notOlder⟩
      rw [found] at same same'
      cases same
      cases same'
      rcases comparable _ member with ⟨_, isAnswer, _, apart⟩
      rcases notOlder _ member with ⟨_, isAnswer', _, ahead⟩
      cases isAnswer
      cases isAnswer'
      exact (upToDate_iff serial soa.2).mpr ⟨ahead soa soaMember, apart soa soaMember⟩
    · intro ok
      rcases (@checkNextSerial_ok_iff env serial kss calls).mp ok with
        ⟨addresses, after, current, found, first, newer⟩
      refine ⟨addresses, after, current, found, first, ?_⟩
      exact (lt_iff_not_le serial current).mpr
        ⟨newer, comparables.next addresses after current found first⟩

namespace Reference

/-- One name server, which answers with the serial. -/
def servingSerial (serial : Serial) : Environment :=
  { environment 1 0 with
    network := { offline with
      querySoa := fun _ _ => .ok (["ns"], 0)
      queryNs := fun _ _ => .ok [["ns"]]
      lookupHost := fun _ _ => .ok ["192.0.2.1"]
      queryAt := fun _ _ name _ => .ok [.ok ⟨name, 3600, .soa serial⟩] } }

end Reference

/-- Serial 2147483648 is neither newer than 0 nor older. -/
theorem followsSerials_halfRange :
    ¬ FollowsSerials (Reference.servingSerial 2147483648) 0 Reference.created.state 0 0 := by
  intro follows
  have ok : (exec (checkNextSerial (Reference.servingSerial 2147483648) 0
      Reference.created.state) 0).1 = .ok () := by rfl
  rcases follows.next ok with ⟨addresses, after, current, found, first, newer⟩
  have asked : exec (getPrimaryAddresses (Reference.servingSerial 2147483648)
      Reference.created.state.keyset.name) 0 = (.ok ["192.0.2.1"], 2) := by rfl
  rw [asked] at found
  cases found
  cases first
  revert newer
  decide

end Dnst.Keyset

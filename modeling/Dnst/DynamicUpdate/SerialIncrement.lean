import Dnst.DynamicUpdate.Delivery
import Dnst.Foundation.SerialNumber

/-! # Serial numbers of added SOA records

An SOA record that is added may only move the serial number of the zone forward, by at
most `2 ^ 31 - 1` as RFC 1982 has it. The comparison lets half of the range through as
well, and an SOA record in the notation for unknown types is not looked at.
-/

namespace Dnst.DynamicUpdate

open Effect
open Keyset (Fault bail mapErr)
open SerialNumber (distance)

/-! ## Comparison -/

/-- RFC 1982, section 3.1: addition of a number up to `2 ^ 31 - 1`. -/
def IsIncrement (old new : Nat) : Prop :=
  ∃ increment : Nat, 1 ≤ increment ∧ increment ≤ 2 ^ 31 - 1 ∧ new = (old + increment) % 2 ^ 32

section Pair

variable {old new : Nat} (oldFits : old < 2 ^ 32) (newFits : new < 2 ^ 32)

include oldFits newFits

theorem isIncrement_iff :
    IsIncrement old new ↔ 1 ≤ distance old new ∧ distance old new ≤ 2 ^ 31 - 1 := by
  unfold IsIncrement
  constructor
  · rintro ⟨increment, positive, bounded, same⟩
    have apart := (SerialNumber.distance_eq_iff oldFits newFits (by omega)).mpr same
    rw [apart]
    exact ⟨positive, bounded⟩
  · rintro ⟨positive, bounded⟩
    exact ⟨distance old new, positive, bounded,
      (SerialNumber.distance_eq_iff oldFits newFits (by omega)).mp rfl⟩

theorem compareSerial_eq_gt_iff :
    compareSerial new old = .gt ↔ 1 ≤ distance old new ∧ distance old new ≤ 2 ^ 31 := by
  unfold compareSerial soaSerialCutoff serialBits
  by_cases ordered : old ≤ new
  · rw [SerialNumber.distance_of_le ordered newFits]
    grind
  · rw [SerialNumber.distance_of_gt (by omega) oldFits]
    grind

theorem verifySoaSerialIncrement_eq_true :
    verifySoaSerialIncrement old new = true ↔
      1 ≤ distance old new ∧ distance old new ≤ 2 ^ 31 := by
  unfold verifySoaSerialIncrement
  rw [beq_iff_eq]
  exact compareSerial_eq_gt_iff oldFits newFits

/-- Only at the half distance a number is accepted that is no increment. -/
theorem verifies_iff :
    (verifySoaSerialIncrement old new = true ↔ IsIncrement old new) ↔
      distance old new ≠ 2 ^ 31 := by
  rw [verifySoaSerialIncrement_eq_true oldFits newFits, isIncrement_iff oldFits newFits]
  omega

theorem compareSerial_swap (comparable : distance old new ≠ 2 ^ 31) :
    compareSerial new old = (compareSerial old new).swap := by
  have apart : new - old ≠ 2 ^ 31 ∧ old - new ≠ 2 ^ 31 := by
    by_cases ordered : old ≤ new
    · rw [SerialNumber.distance_of_le ordered newFits] at comparable
      omega
    · rw [SerialNumber.distance_of_gt (by omega) oldFits] at comparable
      omega
  unfold compareSerial soaSerialCutoff serialBits
  by_cases same : new = old
  · rw [if_pos same, if_pos same.symm]
    rfl
  · rw [if_neg same, if_neg (Ne.symm same)]
    by_cases behind : (new < old ∧ old - new < 2 ^ (32 - 1)) ∨ (new > old ∧ new - old > 2 ^ (32 - 1))
    · have ahead : ¬ ((old < new ∧ new - old < 2 ^ (32 - 1)) ∨
          (old > new ∧ old - new > 2 ^ (32 - 1))) := by omega
      rw [if_pos behind, if_neg ahead]
      rfl
    · have ahead : (old < new ∧ new - old < 2 ^ (32 - 1)) ∨
          (old > new ∧ old - new > 2 ^ (32 - 1)) := by omega
      rw [if_neg behind, if_pos ahead]
      rfl

end Pair

/-! ## Records -/

/-- The serial number in the octets of an SOA record: five numbers of four octets end
the record. -/
def genericSerial (octets : List Nat) : Option Nat :=
  match octets.drop (octets.length - 20) with
  | [first, second, third, fourth, _, _, _, _, _, _, _, _, _, _, _, _, _, _, _, _] =>
      some (((first * 256 + second) * 256 + third) * 256 + fourth)
  | _ => none

/-- The serial number of a record, if it is an SOA record. -/
def soaSerial : ZoneRecordData → Option Nat
  | .soa serial _ => some serial
  | .other .soa octets => genericSerial octets
  | .unknown .soa octets => genericSerial octets
  | _ => none

/-- The record data that the texts stand for. -/
def Adds (domain : Domain) (rtype : Rtype) (rdata : List String) (data : ZoneRecordData) :
    Prop :=
  ∃ text ∈ rdata, ∃ record,
    FirstRecord (domain.zonefile none none (rdataText domain rtype text)) record ∧
      data = record.data

def MovesForward (old : Nat) (data : ZoneRecordData) : Prop :=
  ∀ new, soaSerial data = some new → IsIncrement old new

/-- Whether the record passes the check of its serial number. -/
def PassesCheck (old : Serial) (data : ZoneRecordData) : Prop :=
  ∀ message, exec (checkSoaSerial old data) message = (.ok (), message)

/-- Nothing is sent: the run ends before it makes a request. -/
def SendsNothing (domain : Domain) (update : Update) (soa : Serial) : Prop :=
  ∀ network target start apex mname,
    network.findSoa start.calls target.zone update.domain = .ok (apex, mname, soa) →
    ∃ fault final, exec (update.run domain network target) start = (.error fault, final) ∧
      final.attempts = start.attempts

/-- The check agrees with RFC 1982 on every record that is to be added, and a record that
does not move the serial number forward keeps the update from being sent. -/
structure FollowsRfc1982 (domain : Domain) (update : Update) (rtype : Rtype)
    (rdata : List String) (old : Serial) : Prop where
  check : ∀ data, Adds domain rtype rdata data →
    (PassesCheck old data ↔ MovesForward old data)
  rejects : (∃ data, Adds domain rtype rdata data ∧ ¬ MovesForward old data) →
    SendsNothing domain update old

/-- An SOA record in its own notation is not half the range ahead; one in the notation for
unknown types moves the serial number forward. -/
def Comparable (old : Nat) : ZoneRecordData → Prop
  | .soa new _ => distance old new ≠ 2 ^ 31
  | data => MovesForward old data

theorem checkSoaSerial_soa (old new : Serial) (rest : List Nat) :
    ∃ reason, checkSoaSerial old (.soa new rest) =
      if verifySoaSerialIncrement old new then return () else bail reason :=
  ⟨_, rfl⟩

theorem passesCheck_soa (old new : Serial) (rest : List Nat) :
    PassesCheck old (.soa new rest) ↔ verifySoaSerialIncrement old new = true := by
  rcases checkSoaSerial_soa old new rest with ⟨reason, check⟩
  unfold PassesCheck
  rw [check]
  cases verifySoaSerialIncrement old new with
  | true => exact ⟨fun _ => rfl, fun _ _ => rfl⟩
  | false =>
      constructor
      · intro passes
        cases passes Message.empty
      · intro impossible
        cases impossible

theorem passesCheck_iff {old : Nat} (oldFits : old < 2 ^ 32) (data : ZoneRecordData)
    (newFits : ∀ new rest, data = .soa new rest → (new : Nat) < 2 ^ 32) :
    (PassesCheck old data ↔ MovesForward old data) ↔ Comparable old data := by
  cases data with
  | soa new rest =>
      have forward : MovesForward old (.soa new rest) ↔ IsIncrement old new := by
        constructor
        · intro moves
          exact moves new rfl
        · intro increment other same
          rw [← Option.some.inj same]
          exact increment
      rw [passesCheck_soa, forward]
      exact verifies_iff oldFits (newFits new rest rfl)
  | other rtype octets =>
      have passes : PassesCheck old (.other rtype octets) := fun _ => rfl
      exact ⟨fun same => same.mp passes, fun moves => ⟨fun _ => moves, fun _ => passes⟩⟩
  | unknown rtype octets =>
      have passes : PassesCheck old (.unknown rtype octets) := fun _ => rfl
      exact ⟨fun same => same.mp passes, fun moves => ⟨fun _ => moves, fun _ => passes⟩⟩

/-! ## Rejection -/

/-- The step fails whatever the message is. -/
def Fails {Value : Type} (step : Build Value) : Prop :=
  ∀ before, ∃ fault after, exec step before = (.error fault, after)

theorem fails_bind {Value Result : Type} {step : Build Value} {next : Value → Build Result}
    (fails : Fails step) : Fails (step >>= next) := by
  intro before
  rcases fails before with ⟨fault, after, run⟩
  exact ⟨fault, after, exec_bind_of_error run⟩

theorem fails_next {Value Result : Type} {step : Build Value} {next : Value → Build Result}
    (fails : ∀ value, Fails (next value)) : Fails (step >>= next) := by
  intro before
  rw [exec_bind]
  rcases exec step before with ⟨fault | value, after⟩
  · exact ⟨fault, after, rfl⟩
  · exact fails value after

/-- One item that cannot be inserted is enough, whatever its position. -/
theorem fails_insertEach {Item : Type} {insert : Item → Build Unit} {items : List Item}
    {item : Item} (member : item ∈ items) (fails : Fails (insert item)) :
    Fails (insertEach insert items) := by
  induction items with
  | nil => cases member
  | cons first items induction =>
      unfold insertEach
      rcases List.mem_cons.mp member with same | later
      · rw [← same]
        exact fails_bind fails
      · exact fails_next fun _ => induction later

theorem fails_checkSoaSerial {old : Serial} {data : ZoneRecordData}
    (refused : ¬ PassesCheck old data) : Fails (checkSoaSerial old data) := by
  intro before
  cases data with
  | soa new rest =>
      rcases checkSoaSerial_soa old new rest with ⟨reason, check⟩
      rw [passesCheck_soa] at refused
      rw [check, if_neg refused]
      exact ⟨_, _, rfl⟩
  | other rtype octets => exact absurd (fun _ => rfl) refused
  | unknown rtype octets => exact absurd (fun _ => rfl) refused

theorem fails_createUpdateMessage {domain : Domain} {update : Update} {apex : Name}
    {prerequisites : UpdatePrerequisites} {rtype : Rtype} {rdata : List String} {old : Serial}
    {data : ZoneRecordData} (action : update.action = .add rtype rdata)
    (adds : Adds domain rtype rdata data) (refused : ¬ PassesCheck old data) :
    Fails (update.createUpdateMessage domain apex prerequisites old) := by
  rcases adds with ⟨text, member, record, first, same⟩
  have parsed : parseRdata domain rtype text = return data := by
    unfold parseRdata
    rw [first, same]
  unfold Update.createUpdateMessage
  refine fails_next fun _ => fails_next fun _ => ?_
  rw [action]
  have nonempty : rdata.isEmpty = false := by
    cases rdata with
    | nil => cases member
    | cons text rdata => rfl
  dsimp only
  unfold Update.insertAddUpdates
  rw [nonempty, if_neg Bool.false_ne_true]
  apply fails_insertEach member
  rw [parsed, pure_bind]
  exact fails_bind (fails_checkSoaSerial refused)

section Sending

variable {network : Network} {start : Delivery}

theorem exec_determineNsnames (zone mname : Name) :
    ∃ result, exec (determineNsnames network zone mname) start =
      (result, { start with calls := start.calls + 1 }) := by
  have counted : exec nextCall start =
      (.ok start.calls, { start with calls := start.calls + 1 }) := rfl
  unfold determineNsnames
  rw [exec_bind_of_ok counted]
  cases network.queryNs start.calls zone with
  | error reason => exact ⟨_, rfl⟩
  | ok nsnames => exact ⟨_, rfl⟩

theorem exec_nsnames (target : Target) (apex mname : Name) :
    ∃ result final, exec (target.nsnames network apex mname) start = (result, final) ∧
      final.attempts = start.attempts := by
  unfold Target.nsnames
  cases target.nameservers with
  | some address => exact ⟨_, _, rfl, rfl⟩
  | none =>
      rcases @exec_determineNsnames network start apex mname with ⟨result, run⟩
      dsimp only
      rw [exec_bind, run]
      cases result with
      | error fault => exact ⟨_, _, rfl, rfl⟩
      | ok nsnames => exact ⟨_, _, rfl, rfl⟩

theorem exec_building {Value : Type} (step : Build Value) (message : Message) :
    ∃ result, exec (building step message) start = (result, start) := by
  unfold building
  rcases exec step message with ⟨fault | value, after⟩
  · exact ⟨_, rfl⟩
  · exact ⟨_, rfl⟩

theorem exec_building_of_fails {Value : Type} {step : Build Value} (fails : Fails step)
    (message : Message) :
    ∃ fault, exec (building step message) start = (.error fault, start) := by
  rcases fails message with ⟨fault, after, run⟩
  unfold building
  rw [run]
  exact ⟨fault, rfl⟩

end Sending

/-- What cannot be built is not sent. -/
theorem sendsNothing_of_fails {domain : Domain} {update : Update} {soa : Serial}
    (fails : ∀ apex prerequisites,
      Fails (update.createUpdateMessage domain apex prerequisites soa)) :
    SendsNothing domain update soa := by
  intro network target start apex mname found
  have counted : exec nextCall start =
      (.ok start.calls, { start with calls := start.calls + 1 }) := rfl
  have asked : exec (mapErr id (network.findSoa start.calls target.zone update.domain) :
      Send (Name × Name × Serial)) { start with calls := start.calls + 1 } =
      (.ok (apex, mname, soa), { start with calls := start.calls + 1 }) := by
    rw [found]
    rfl
  unfold Update.run
  rw [exec_bind_of_ok counted, exec_bind_of_ok asked]
  dsimp only
  rcases @exec_building { start with calls := start.calls + 1 } _
    (update.parsePrerequisites domain apex) Message.empty with ⟨parsed, parsing⟩
  rw [exec_bind, parsing]
  cases parsed with
  | error fault => exact ⟨fault, _, rfl, rfl⟩
  | ok value =>
      rcases value with ⟨prerequisites, message⟩
      dsimp only
      rcases @exec_nsnames network { start with calls := start.calls + 1 } target apex mname with
        ⟨named, middle, naming, same⟩
      rw [exec_bind, naming]
      cases named with
      | error fault => exact ⟨fault, middle, rfl, same⟩
      | ok nsnames =>
          dsimp only
          rcases @exec_building_of_fails middle _ _ (fails apex prerequisites) message with
            ⟨fault, building⟩
          rw [exec_bind_of_error building]
          exact ⟨fault, middle, rfl, same⟩

/-- The comparison follows RFC 1982 except at the half distance, and the check of what is
added follows it as long as all records are comparable. -/
theorem soaSerials_follow_iff (old : Nat) (oldFits : old < 2 ^ 32) :
    (∀ new : Nat, new < 2 ^ 32 →
      ((verifySoaSerialIncrement old new = true ↔ IsIncrement old new) ↔
        distance old new ≠ 2 ^ 31)) ∧
    (∀ new : Nat, new < 2 ^ 32 → distance old new ≠ 2 ^ 31 →
      compareSerial new old = (compareSerial old new).swap) ∧
    ∀ (domain : Domain) (update : Update) (rtype : Rtype) (rdata : List String),
      update.action = .add rtype rdata →
      (∀ new rest, Adds domain rtype rdata (.soa new rest) → (new : Nat) < 2 ^ 32) →
      (FollowsRfc1982 domain update rtype rdata old ↔
        ∀ data, Adds domain rtype rdata data → Comparable old data) := by
  refine ⟨fun new => verifies_iff oldFits, fun new => compareSerial_swap oldFits, ?_⟩
  intro domain update rtype rdata action newFits
  have each : ∀ data, Adds domain rtype rdata data →
      ((PassesCheck old data ↔ MovesForward old data) ↔ Comparable old data) := by
    intro data adds
    apply passesCheck_iff oldFits
    intro new rest same
    rw [same] at adds
    exact newFits new rest adds
  constructor
  · intro follows data adds
    exact (each data adds).mp (follows.check data adds)
  · intro comparable
    have check : ∀ data, Adds domain rtype rdata data →
        (PassesCheck old data ↔ MovesForward old data) :=
      fun data adds => (each data adds).mpr (comparable data adds)
    refine ⟨check, ?_⟩
    rintro ⟨data, adds, stays⟩
    apply sendsNothing_of_fails
    intro apex prerequisites
    have refused : ¬ PassesCheck old data := fun passes => stays ((check data adds).mp passes)
    exact fails_createUpdateMessage action adds refused

namespace Reference

/-- Every text is an SOA record with the number as its serial number. -/
def soaDomain (serial : Nat) : Domain where
  rtypeFromStr := fun _ => .error "unknown type"
  showRtype := fun _ => "SOA"
  uncertainName := fun _ => .error "invalid name"
  zonefile := fun _ _ _ => [.ok (.record ⟨[], .inClass, 1, .soa serial []⟩)]
  room := fun _ _ => none

def soaText (serial : Nat) : String := s!"a. b. {serial} 1 1 1 1"

def addingSoa (serial : Nat) : Update where
  domain := ["example", "com"]
  action := .add .soa [soaText serial]
  class' := .inClass
  ttl := 3600
  rrsetExists := none
  rrsetExistsExact := none
  rrsetNonExistent := none
  nameInUse := none
  nameNotInUse := none

theorem adds_soaDomain {serial : Nat} {rtype : Rtype} {rdata : List String}
    {data : ZoneRecordData} (adds : Adds (soaDomain serial) rtype rdata data) :
    data = .soa serial [] := by
  rcases adds with ⟨text, _, record, first, same⟩
  cases first
  exact same

end Reference

theorem soaSerials_follow_adjacent :
    FollowsRfc1982 (Reference.soaDomain 2) (Reference.addingSoa 2) .soa
      [Reference.soaText 2] 1 := by
  have fits : ∀ new rest, Adds (Reference.soaDomain 2) .soa [Reference.soaText 2]
      (.soa new rest) → (new : Nat) < 2 ^ 32 := by
    intro new rest adds
    cases Reference.adds_soaDomain adds
    decide
  apply ((soaSerials_follow_iff 1 (by decide)).2.2 _ _ _ _ rfl fits).mpr
  intro data adds
  rw [Reference.adds_soaDomain adds]
  change distance 1 2 ≠ 2 ^ 31
  decide

/-- From 1 to 2147483649 it is half the range. -/
theorem soaSerials_halfRange :
    ¬ FollowsRfc1982 (Reference.soaDomain 2147483649) (Reference.addingSoa 2147483649) .soa
      [Reference.soaText 2147483649] 1 := by
  intro follows
  have adds : Adds (Reference.soaDomain 2147483649) .soa [Reference.soaText 2147483649]
      (.soa 2147483649 []) :=
    ⟨_, List.mem_singleton_self _, _, rfl, rfl⟩
  have passes : PassesCheck 1 (.soa 2147483649 []) := by
    rw [passesCheck_soa]
    decide
  rcases (follows.check _ adds).mp passes _ rfl with ⟨increment, _, bounded, same⟩
  omega

end Dnst.DynamicUpdate

import Dnst.Foundation.Triple
import Dnst.Foundation.Utf8
import Dnst.Keyset.Environment

/-! # Shortened zone names

A zone name that is too long for a label keeps its last label and as many labels from
the left as fit.
-/

namespace Dnst.Keyset

open Effect

/-! ## Zone names -/

/-- The octets of one label of a domain name. -/
abbrev NameLabel := List UInt8

/-- Presentation format of domain names. -/
structure NameFormat where
  /-- `Name::from_str`: the labels from the leaf to the root, with the root label. -/
  parse : String → Option (List NameLabel)
  /-- Labels without the root label and the final dot. -/
  display : List NameLabel → String

/-- The labels that `NameBuilder` has been given. -/
structure NameBuilder where
  labels : List NameLabel

namespace NameBuilder

def new : NameBuilder := ⟨[]⟩

/-- Octets in wire format. -/
def len (name : NameBuilder) : Nat := (name.labels.map fun label => label.length + 1).sum

/-- `append_label`, under `unwrap`. Nothing happens for an empty label. -/
def appendLabel {State : Type} (name : NameBuilder) (label : NameLabel) :
    Effect State Fault NameBuilder :=
  if label.isEmpty then
    return name
  else if 63 < label.length then
    panic (expectMessage "called `Result::unwrap()` on an `Err` value" "LongLabel")
  else if 254 < name.len + label.length + 1 then
    panic (expectMessage "called `Result::unwrap()` on an `Err` value" "LongName")
  else
    return ⟨name.labels ++ [label]⟩

end NameBuilder

/-- `String::truncate`. -/
def truncate {State : Type} (text : String) (newLen : Nat) : Effect State Fault String :=
  if text.utf8ByteSize ≤ newLen then
    return text
  else
    match Utf8.take newLen text.toList with
    | none => panic "assertion failed: self.is_char_boundary(new_len)"
    | some chars => return String.ofList chars

/-- Append labels from the left as long as they fit. Minus one to allow space for
the `..` that will be used instead of `.` to signify that truncation occurred. -/
def appendFitting {State : Type} (endLen maxZoneNameLen : Nat) :
    List NameLabel → NameBuilder → Effect State Fault NameBuilder
  | [], startName => return startName
  | label :: labels, startName =>
      if startName.len + label.length + endLen < maxZoneNameLen - 1 then do
        let longer ← startName.appendLabel label
        appendFitting endLen maxZoneNameLen labels longer
      else
        appendFitting endLen maxZoneNameLen labels startName

/-- Remove labels under the TLD label. -/
def dropLabels {State : Type} (names : NameFormat) (labels : List NameLabel)
    (maxZoneNameLen : Nat) : Effect State Fault (Option String) :=
  match labels.reverse with
  | root :: tld :: _ :: _ => do
      let rootName ← NameBuilder.new.appendLabel root
      let endName ← rootName.appendLabel tld
      let startName ← appendFitting endName.len maxZoneNameLen
        (labels.take (labels.length - 2)) NameBuilder.new
      let zoneName := names.display startName.labels ++ ".." ++
        names.display endName.labels ++ "."
      if startName.labels.isEmpty then
        return none
      else if zoneName.utf8ByteSize ≤ maxZoneNameLen then
        return some zoneName
      else
        return none
  -- Only names that have at least three labels can be shortened.
  | _ => return none

def shortenByLabels {State : Type} (names : NameFormat) (zoneName : String)
    (maxZoneNameLen : Nat) : Effect State Fault (Option String) :=
  if 0 < maxZoneNameLen then
    match names.parse zoneName with
    | none => return none
    | some labels => dropLabels names labels maxZoneNameLen
  else
    return none

/-- Truncate a zone name to a maximum length: first by removing labels under the TLD
label, falling back to its first bytes. -/
def truncateZoneName {State : Type} (names : NameFormat) (zoneName : String)
    (maxZoneNameLen : Nat) : Effect State Fault String :=
  if zoneName.utf8ByteSize ≤ maxZoneNameLen then
    return zoneName
  else do
    let shortened ← shortenByLabels names zoneName maxZoneNameLen
    match shortened with
    | some shorter => return shorter
    | none => truncate zoneName maxZoneNameLen

/-! ## Lengths -/

section Lengths

variable {State : Type}

theorem truncate_reads (text : String) (newLen : Nat) :
    Reads (fun cut => cut.utf8ByteSize ≤ newLen)
      (truncate text newLen : Effect State Fault String) := by
  unfold truncate
  split
  · next short => exact reads_pure short
  · split
    · exact reads_throw _
    · next chars cut =>
        apply reads_pure
        have size : Utf8.size chars = newLen := Utf8.size_of_take cut
        rw [Utf8.utf8ByteSize_ofList]
        exact Nat.le_of_eq size

theorem appendLabel_reads (name : NameBuilder) (label : NameLabel) :
    Reads (fun _ => True) (name.appendLabel label : Effect State Fault NameBuilder) := by
  unfold NameBuilder.appendLabel
  split
  · exact reads_pure trivial
  · split
    · exact reads_throw _
    · split
      · exact reads_throw _
      · exact reads_pure trivial

theorem appendFitting_reads (endLen maxZoneNameLen : Nat) (labels : List NameLabel)
    (startName : NameBuilder) :
    Reads (fun _ => True) (appendFitting endLen maxZoneNameLen labels startName :
      Effect State Fault NameBuilder) := by
  induction labels generalizing startName with
  | nil => exact reads_pure trivial
  | cons label labels induction =>
      unfold appendFitting
      split
      · apply reads_bind (appendLabel_reads startName label)
        intro longer _
        exact induction longer
      · exact induction startName

/-- A name that is returned is short enough. -/
def ShortName (maxZoneNameLen : Nat) (shortened : Option String) : Prop :=
  ∀ zoneName, shortened = some zoneName → zoneName.utf8ByteSize ≤ maxZoneNameLen

theorem shortName_none (maxZoneNameLen : Nat) : ShortName maxZoneNameLen none := by
  intro zoneName impossible
  cases impossible

theorem dropLabels_reads (names : NameFormat) (labels : List NameLabel)
    (maxZoneNameLen : Nat) :
    Reads (ShortName maxZoneNameLen)
      (dropLabels names labels maxZoneNameLen : Effect State Fault (Option String)) := by
  unfold dropLabels
  split
  · apply reads_bind (appendLabel_reads _ _)
    intro rootName _
    apply reads_bind (appendLabel_reads _ _)
    intro endName _
    apply reads_bind (appendFitting_reads _ _ _ _)
    intro startName _
    dsimp only
    split
    · exact reads_pure (shortName_none maxZoneNameLen)
    · split
      · next fits =>
          apply reads_pure
          intro zoneName same
          cases same
          exact fits
      · exact reads_pure (shortName_none maxZoneNameLen)
  · exact reads_pure (shortName_none maxZoneNameLen)

theorem shortenByLabels_reads (names : NameFormat) (zoneName : String)
    (maxZoneNameLen : Nat) :
    Reads (ShortName maxZoneNameLen)
      (shortenByLabels names zoneName maxZoneNameLen : Effect State Fault (Option String)) := by
  unfold shortenByLabels
  split
  · split
    · exact reads_pure (shortName_none maxZoneNameLen)
    · exact dropLabels_reads names _ maxZoneNameLen
  · exact reads_pure (shortName_none maxZoneNameLen)

theorem truncateZoneName_reads (names : NameFormat) (zoneName : String)
    (maxZoneNameLen : Nat) :
    Reads (fun shorter => shorter.utf8ByteSize ≤ maxZoneNameLen)
      (truncateZoneName names zoneName maxZoneNameLen : Effect State Fault String) := by
  unfold truncateZoneName
  split
  · next short => exact reads_pure short
  · apply reads_bind (shortenByLabels_reads names zoneName maxZoneNameLen)
    intro shortened short
    cases shortened with
    | none => exact truncate_reads zoneName maxZoneNameLen
    | some shorter => exact reads_pure (short shorter rfl)

end Lengths

end Dnst.Keyset

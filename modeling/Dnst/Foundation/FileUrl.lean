import Mathlib.Data.List.DropRight

/-! # File URLs

How the URL Standard reads a `file` URL that names no host: the characters of the
path are percent-encoded and its dot segments resolved, what follows `?` or `#`
belongs to the query or the fragment. A path is read back as it was written exactly
if it is canonical.
-/

namespace Dnst

/-- A `file` URL without a host: the segments of the path and what is written behind
the path. -/
structure FileUrl where
  path : List (List Char)
  ending : List Char
  deriving DecidableEq, Repr

namespace FileUrl

/-! ## Characters -/

def isC0OrSpace (c : Char) : Bool := c.toNat ≤ 0x20

def isTabOrNewline (c : Char) : Bool := "\t\n\r".toList.contains c

def c0ControlSet (c : Char) : Bool := c.toNat < 0x20 || 0x7e < c.toNat

def fragmentSet (c : Char) : Bool :=
  c0ControlSet c || " \"<>`".toList.contains c

def querySet (c : Char) : Bool := c0ControlSet c || " \"#<>".toList.contains c

def specialQuerySet (c : Char) : Bool := querySet c || "'".toList.contains c

def pathSet (c : Char) : Bool := querySet c || "?^`\x7b\x7d".toList.contains c

def hexDigit (value : Nat) : Char :=
  Char.ofNat (if value < 10 then 0x30 + value else 0x37 + value)

def percentEncodeByte (byte : UInt8) : List Char :=
  ['%', hexDigit (byte.toNat / 16), hexDigit (byte.toNat % 16)]

/-- UTF-8 percent-encode a character that is in the set. -/
def percentEncode (set : Char → Bool) (c : Char) : List Char :=
  if set c then (String.utf8EncodeChar c).flatMap percentEncodeByte else [c]

/-! ## Segments -/

abbrev Segment := List Char

def lowercase (segment : Segment) : String := String.ofList (segment.map Char.toLower)

def isSingleDot (segment : Segment) : Bool := [".", "%2e"].contains (lowercase segment)

def isDoubleDot (segment : Segment) : Bool :=
  ["..", ".%2e", "%2e.", "%2e%2e"].contains (lowercase segment)

def isWindowsDrive : Segment → Bool
  | [letter, mark] => letter.isAlpha && [':', '|'].contains mark
  | _ => false

def isNormalizedDrive : Segment → Bool
  | [letter, mark] => letter.isAlpha && mark == ':'
  | _ => false

def normalizeDrive : Segment → Segment
  | [letter, _] => [letter, ':']
  | segment => segment

/-- A drive letter is never taken off. -/
def shorten (path : List Segment) : List Segment :=
  match path with
  | [first] => if isNormalizedDrive first then [first] else []
  | path => path.dropLast

/-- The end of a segment, at a slash or at the end of the path. -/
def endSegment (path : List Segment) (buffer : Segment) (slash : Bool) : List Segment :=
  if isDoubleDot buffer then
    if slash then shorten path else shorten path ++ [[]]
  else if isSingleDot buffer then
    if slash then path else path ++ [[]]
  else if path.isEmpty && isWindowsDrive buffer then
    [normalizeDrive buffer]
  else
    path ++ [buffer]

/-! ## The states of the parser -/

def fragmentState (text : List Char) : List Char := text.flatMap (percentEncode fragmentSet)

def queryState : List Char → List Char
  | [] => []
  | c :: rest =>
      if c = '#' then '#' :: fragmentState rest
      else percentEncode specialQuerySet c ++ queryState rest

def pathState (path : List Segment) (buffer : Segment) : List Char → FileUrl
  | [] => ⟨endSegment path buffer false, []⟩
  | c :: rest =>
      if c = '/' ∨ c = '\\' then pathState (endSegment path buffer true) [] rest
      else if c = '?' then ⟨endSegment path buffer false, '?' :: queryState rest⟩
      else if c = '#' then ⟨endSegment path buffer false, '#' :: fragmentState rest⟩
      else pathState path (buffer ++ percentEncode pathSet c) rest

def pathStartState : List Char → FileUrl
  | [] => pathState [] [] []
  | c :: rest =>
      if c = '/' ∨ c = '\\' then pathState [] [] rest else pathState [] [] (c :: rest)

def preprocess (text : List Char) : List Char :=
  (text.rdropWhile isC0OrSpace).filter fun c => !isTabOrNewline c

/-- Parse what follows `file://` and does not name a host. -/
def parse (text : List Char) : FileUrl := pathStartState (preprocess text)

def serializePath (path : List Segment) : List Char := path.flatMap ('/' :: ·)

/-- What is written behind `file://`. -/
def serialize (url : FileUrl) : List Char := serializePath url.path ++ url.ending

/-! ## Canonical paths -/

/-- A character of a segment that is left as it is. -/
def plain (c : Char) : Bool := !pathSet c && !"/\\".toList.contains c

def tidy (segment : Segment) : Bool :=
  segment.all plain && !isSingleDot segment && !isDoubleDot segment

/-- A drive letter in front is followed by a colon. -/
def driveNormalized : List Segment → Bool
  | first :: _ => !isWindowsDrive first || isNormalizedDrive first
  | [] => true

def canonicalSegments (path : List Segment) : Bool := path.all tidy && driveNormalized path

/-- An absolute path that means the same in a URL. -/
def canonical : List Char → Bool
  | '/' :: rest => canonicalSegments (rest.splitOn '/')
  | _ => false

/-! ## What is read is canonical -/

theorem plain_hexDigit (value : Nat) (digit : value < 16) : plain (hexDigit value) = true := by
  have digits : ∀ value < 16, plain (hexDigit value) = true := by decide
  exact digits value digit

theorem percentEncodeByte_plain (byte : UInt8) :
    (percentEncodeByte byte).all plain = true := by
  have bounded := byte.toNat_lt
  have percent : plain '%' = true := by decide
  have high := plain_hexDigit (byte.toNat / 16) (by omega)
  have low := plain_hexDigit (byte.toNat % 16) (by omega)
  simp [percentEncodeByte, percent, high, low]

theorem percentEncode_plain {c : Char} (noSlash : ¬ (c = '/' ∨ c = '\\')) :
    (percentEncode pathSet c).all plain = true := by
  unfold percentEncode
  by_cases encoded : pathSet c = true
  · rw [if_pos encoded, List.all_flatMap, List.all_eq_true]
    intro byte _
    exact percentEncodeByte_plain byte
  · rw [if_neg encoded]
    have noSlash' : c ≠ '/' ∧ c ≠ '\\' := not_or.mp noSlash
    simp [plain, encoded, noSlash']

theorem canonicalSegments_dropLast {path : List Segment}
    (read : canonicalSegments path = true) : canonicalSegments path.dropLast = true := by
  unfold canonicalSegments at read ⊢
  rw [Bool.and_eq_true] at read ⊢
  constructor
  · rw [List.all_eq_true] at read ⊢
    intro segment member
    exact read.1 segment ((List.dropLast_sublist path).subset member)
  · cases path with
    | nil => rfl
    | cons first rest =>
        cases rest with
        | nil => rfl
        | cons second rest => exact read.2

theorem canonicalSegments_shorten {path : List Segment}
    (read : canonicalSegments path = true) : canonicalSegments (shorten path) = true := by
  unfold shorten
  split
  · split
    · exact read
    · rfl
  · exact canonicalSegments_dropLast read

theorem canonicalSegments_append {path : List Segment} {segment : Segment}
    (read : canonicalSegments path = true) (tidied : tidy segment = true)
    (drive : path = [] → driveNormalized [segment] = true) :
    canonicalSegments (path ++ [segment]) = true := by
  cases path with
  | nil =>
      have normalized := drive rfl
      simp [canonicalSegments, tidied, normalized]
  | cons first rest =>
      unfold canonicalSegments at read ⊢
      rw [Bool.and_eq_true] at read ⊢
      refine ⟨?_, read.2⟩
      rw [List.all_append, read.1]
      simp [tidied]

theorem tidy_nil : tidy [] = true := by decide

theorem normalizeDrive_canonical {buffer : Segment} (drive : isWindowsDrive buffer = true)
    (plainBuffer : buffer.all plain = true) :
    canonicalSegments [normalizeDrive buffer] = true := by
  unfold isWindowsDrive at drive
  split at drive
  · next letter mark =>
      rw [Bool.and_eq_true] at drive
      have colon : plain ':' = true := by decide
      have letterPlain : plain letter = true := by
        rw [List.all_eq_true] at plainBuffer
        exact plainBuffer letter (by simp)
      have notDots : isSingleDot [letter, ':'] = false ∧ isDoubleDot [letter, ':'] = false := by
        simp [isSingleDot, isDoubleDot, lowercase, String.ext_iff]
      simp [canonicalSegments, normalizeDrive, driveNormalized, isNormalizedDrive, tidy,
        drive.1, colon, letterPlain, notDots]
  · cases drive

theorem endSegment_canonical {path : List Segment} {buffer : Segment}
    (read : canonicalSegments path = true) (plainBuffer : buffer.all plain = true)
    (slash : Bool) : canonicalSegments (endSegment path buffer slash) = true := by
  unfold endSegment
  by_cases double : isDoubleDot buffer = true
  · rw [if_pos double]
    have shortened := canonicalSegments_shorten read
    cases slash with
    | true => exact shortened
    | false => exact canonicalSegments_append shortened tidy_nil fun _ => rfl
  · rw [if_neg double]
    by_cases single : isSingleDot buffer = true
    · rw [if_pos single]
      cases slash with
      | true => exact read
      | false => exact canonicalSegments_append read tidy_nil fun _ => rfl
    · rw [if_neg single]
      have tidied : tidy buffer = true := by simp [tidy, plainBuffer, single, double]
      split
      · next drive =>
          rw [Bool.and_eq_true] at drive
          exact normalizeDrive_canonical drive.2 plainBuffer
      · next noDrive =>
          apply canonicalSegments_append read tidied
          intro first
          subst first
          have noDrive : isWindowsDrive buffer = false := by simpa using noDrive
          simp [driveNormalized, noDrive]

theorem endSegment_ne_nil (path : List Segment) (buffer : Segment) :
    endSegment path buffer false ≠ [] := by
  unfold endSegment
  split
  · simp
  · split
    · simp
    · split
      · simp
      · simp

/-- The segments read so far stay canonical from character to character. -/
theorem pathState_canonical (text : List Char) :
    ∀ (path : List Segment) (buffer : Segment), canonicalSegments path = true →
      buffer.all plain = true →
        canonicalSegments (pathState path buffer text).path = true ∧
          (pathState path buffer text).path ≠ [] := by
  induction text with
  | nil =>
      intro path buffer read plainBuffer
      exact ⟨endSegment_canonical read plainBuffer false, endSegment_ne_nil path buffer⟩
  | cons c rest induction =>
      intro path buffer read plainBuffer
      have ended := endSegment_canonical read plainBuffer
      unfold pathState
      split
      · exact induction _ [] (ended true) rfl
      · next noSlash =>
          split
          · exact ⟨ended false, endSegment_ne_nil path buffer⟩
          · split
            · exact ⟨ended false, endSegment_ne_nil path buffer⟩
            · apply induction path _ read
              rw [List.all_append, plainBuffer, percentEncode_plain noSlash]
              rfl

theorem pathStartState_canonical (text : List Char) :
    canonicalSegments (pathStartState text).path = true ∧ (pathStartState text).path ≠ [] := by
  unfold pathStartState
  split
  · exact pathState_canonical _ [] [] rfl rfl
  · split
    · exact pathState_canonical _ [] [] rfl rfl
    · exact pathState_canonical _ [] [] rfl rfl

theorem slash_not_mem {segment : Segment} (tidied : tidy segment = true) : '/' ∉ segment := by
  intro member
  have slash : plain '/' = false := by decide
  unfold tidy at tidied
  rw [Bool.and_eq_true, Bool.and_eq_true, List.all_eq_true] at tidied
  have isPlain := tidied.1.1 '/' member
  rw [slash] at isPlain
  cases isPlain

theorem serializePath_eq (path : List Segment) (nonempty : path ≠ []) :
    serializePath path = '/' :: ['/'].intercalate path := by
  induction path with
  | nil => exact absurd rfl nonempty
  | cons first rest induction =>
      cases rest with
      | nil => simp [serializePath]
      | cons second rest =>
          have remaining := induction (by simp)
          unfold serializePath at remaining ⊢
          rw [List.flatMap_cons, remaining, List.intercalate_cons_cons]
          simp

theorem canonical_serializePath {path : List Segment} (read : canonicalSegments path = true)
    (nonempty : path ≠ []) : canonical (serializePath path) = true := by
  have noSlash : ∀ segment ∈ path, '/' ∉ segment := by
    intro segment member
    unfold canonicalSegments at read
    rw [Bool.and_eq_true, List.all_eq_true] at read
    exact slash_not_mem (read.1 segment member)
  have segments : (['/'].intercalate path).splitOn '/' = path :=
    List.splitOn_intercalate '/' noSlash nonempty
  rw [serializePath_eq path nonempty]
  change canonicalSegments ((['/'].intercalate path).splitOn '/') = true
  rw [segments]
  exact read

/-- Only canonical paths are read. -/
theorem canonical_parse (text : List Char) :
    canonical (serializePath (parse text).path) = true := by
  have read := pathStartState_canonical (preprocess text)
  exact canonical_serializePath read.1 read.2

/-! ## Canonical paths are read as they are -/

theorem plain_ne {c other : Char} (isPlain : plain c = true) (special : plain other = false) :
    c ≠ other := by
  intro same
  rw [same, special] at isPlain
  cases isPlain

theorem visible_of_not_c0 {c : Char} (visible : 0x20 < c.toNat) :
    isC0OrSpace c = false ∧ isTabOrNewline c = false := by
  constructor
  · unfold isC0OrSpace
    rw [decide_eq_false_iff_not]
    omega
  · have noneVisible : ∀ other ∈ ['\t', '\n', '\r'], ¬ 0x20 < other.toNat := by simp
    unfold isTabOrNewline
    rw [← Bool.not_eq_true, List.contains_iff_mem]
    intro member
    exact noneVisible c (by simpa using member) visible

theorem visible_of_not_mem {set : Char → Bool} {c : Char} (leftOut : set c = false)
    (controls : ∀ c, c0ControlSet c = true → set c = true) (space : set ' ' = true) :
    0x20 < c.toNat := by
  have noControl : ¬ c0ControlSet c = true := by
    intro control
    rw [controls c control] at leftOut
    cases leftOut
  have printable : ¬ c.toNat < 0x20 := by
    intro low
    simp [c0ControlSet, low] at noControl
  have noSpace : c.toNat ≠ 0x20 := by
    intro same
    have isSpace : c = ' ' := Char.toNat_inj.mp same
    rw [isSpace, space] at leftOut
    cases leftOut
  omega

theorem visible_of_plain {c : Char} (isPlain : plain c = true) : 0x20 < c.toNat := by
  have leftOut : pathSet c = false := by
    unfold plain at isPlain
    rw [Bool.and_eq_true] at isPlain
    simpa using isPlain.1
  apply visible_of_not_mem leftOut
  · intro c control
    simp [pathSet, querySet, control]
  · decide

theorem endSegment_tidy {path : List Segment} {buffer : Segment} (tidied : tidy buffer = true)
    (normalized : driveNormalized (path ++ [buffer]) = true) (slash : Bool) :
    endSegment path buffer slash = path ++ [buffer] := by
  unfold tidy at tidied
  rw [Bool.and_eq_true, Bool.and_eq_true] at tidied
  have noSingle : ¬ isSingleDot buffer = true := by simpa using tidied.1.2
  have noDouble : ¬ isDoubleDot buffer = true := by simpa using tidied.2
  unfold endSegment
  rw [if_neg noDouble, if_neg noSingle]
  split
  · next drive =>
      rw [Bool.and_eq_true, List.isEmpty_iff] at drive
      rw [drive.1] at normalized ⊢
      have colon : isNormalizedDrive buffer = true := by
        simpa [driveNormalized, drive.2] using normalized
      unfold isNormalizedDrive at colon
      split at colon
      · next letter mark =>
          rw [Bool.and_eq_true, beq_iff_eq] at colon
          rw [colon.2]
          rfl
      · cases colon
  · rfl

theorem pathState_plain (path : List Segment) (chunk : Segment) (rest : List Char) :
    ∀ buffer, chunk.all plain = true →
      pathState path buffer (chunk ++ rest) = pathState path (buffer ++ chunk) rest := by
  induction chunk with
  | nil =>
      intro buffer _
      simp
  | cons c chunk induction =>
      intro buffer plainChunk
      rw [List.all_cons, Bool.and_eq_true] at plainChunk
      have slash : c ≠ '/' := plain_ne plainChunk.1 (by decide)
      have backslash : c ≠ '\\' := plain_ne plainChunk.1 (by decide)
      have question : c ≠ '?' := plain_ne plainChunk.1 (by decide)
      have hash : c ≠ '#' := plain_ne plainChunk.1 (by decide)
      have kept : percentEncode pathSet c = [c] := by
        have leftOut : pathSet c = false := by
          have isPlain := plainChunk.1
          unfold plain at isPlain
          rw [Bool.and_eq_true] at isPlain
          simpa using isPlain.1
        simp [percentEncode, leftOut]
      rw [List.cons_append, pathState, if_neg (not_or.mpr ⟨slash, backslash⟩),
        if_neg question, if_neg hash, kept, induction _ plainChunk.2]
      simp

/-- A query or a fragment, or nothing. -/
def terminated (ending : List Char) : Bool := ending.head?.all fun c => c == '?' || c == '#'

theorem pathState_terminated (path : List Segment) (buffer : Segment) {ending : List Char}
    (ends : terminated ending = true) :
    (pathState path buffer ending).path = endSegment path buffer false := by
  cases ending with
  | nil => rfl
  | cons c rest =>
      have mark : c = '?' ∨ c = '#' := by simpa [terminated] using ends
      rcases mark with question | hash
      · rw [question]
        rfl
      · rw [hash]
        rfl

theorem driveNormalized_left {path rest : List Segment} {segment : Segment}
    (normalized : driveNormalized (path ++ segment :: rest) = true) :
    driveNormalized (path ++ [segment]) = true := by
  cases path with
  | nil => exact normalized
  | cons first path => exact normalized

theorem pathState_segments (segments : List Segment) {ending : List Char}
    (ends : terminated ending = true) :
    ∀ path, canonicalSegments (path ++ segments) = true → segments ≠ [] →
      (pathState path [] (['/'].intercalate segments ++ ending)).path = path ++ segments := by
  induction segments with
  | nil =>
      intro path _ nonempty
      exact absurd rfl nonempty
  | cons segment segments induction =>
      intro path read _
      have parts := read
      unfold canonicalSegments at parts
      rw [Bool.and_eq_true, List.all_eq_true] at parts
      have tidied : tidy segment = true := parts.1 segment (by simp)
      have plainSegment : segment.all plain = true := by
        unfold tidy at tidied
        rw [Bool.and_eq_true, Bool.and_eq_true] at tidied
        exact tidied.1.1
      have ended := endSegment_tidy tidied (driveNormalized_left parts.2)
      cases segments with
      | nil =>
          rw [List.intercalate_singleton, pathState_plain path segment ending [] plainSegment,
            pathState_terminated _ _ ends]
          exact ended false
      | cons second segments =>
          have slash : '/' = '/' ∨ '/' = '\\' := Or.inl rfl
          have remaining := induction (path ++ [segment]) (by simpa using read) (by simp)
          rw [List.intercalate_cons_cons, List.append_assoc, List.append_assoc,
            pathState_plain path segment _ [] plainSegment, List.singleton_append, pathState,
            if_pos slash, List.nil_append, ended true, remaining]
          simp

theorem preprocess_visible {text : List Char} (visible : ∀ c ∈ text, 0x20 < c.toNat) :
    preprocess text = text := by
  have keptAtEnd : text.rdropWhile isC0OrSpace = text := by
    rw [List.rdropWhile_eq_self_iff]
    intro nonempty
    have last := visible _ (List.getLast_mem nonempty)
    rw [(visible_of_not_c0 last).1]
    exact Bool.false_ne_true
  unfold preprocess
  rw [keptAtEnd, List.filter_eq_self]
  intro c member
  rw [(visible_of_not_c0 (visible c member)).2]
  rfl

theorem canonical_segments {text : List Char} (read : canonical text = true) :
    ∃ path, path ≠ [] ∧ text = '/' :: ['/'].intercalate path ∧
      canonicalSegments path = true := by
  unfold canonical at read
  split at read
  · next rest =>
      refine ⟨rest.splitOn '/', List.splitOn_ne_nil _ _, ?_, read⟩
      rw [List.intercalate_splitOn]
  · cases read

theorem visible_of_canonical {text : List Char} (read : canonical text = true) :
    ∀ c ∈ text, 0x20 < c.toNat := by
  intro c member
  have slash : 0x20 < '/'.toNat := by decide
  rcases canonical_segments read with ⟨path, nonempty, shown, segments⟩
  rw [shown, ← serializePath_eq path nonempty] at member
  unfold serializePath at member
  rw [List.mem_flatMap] at member
  rcases member with ⟨segment, inPath, inSegment⟩
  rw [List.mem_cons] at inSegment
  unfold canonicalSegments at segments
  rw [Bool.and_eq_true, List.all_eq_true] at segments
  have tidied := segments.1 segment inPath
  unfold tidy at tidied
  rw [Bool.and_eq_true, Bool.and_eq_true, List.all_eq_true] at tidied
  rcases inSegment with isSlash | inside
  · rw [isSlash]
    exact slash
  · exact visible_of_plain (tidied.1.1 c inside)

/-- A canonical path is read as it is, whatever query and fragment follow. -/
theorem parse_canonical {text ending : List Char} (read : canonical text = true)
    (ends : terminated ending = true) (visible : ∀ c ∈ ending, 0x20 < c.toNat) :
    serializePath (parse (text ++ ending)).path = text := by
  have allVisible : ∀ c ∈ text ++ ending, 0x20 < c.toNat := by
    intro c member
    rcases List.mem_append.mp member with inText | inEnding
    · exact visible_of_canonical read c inText
    · exact visible c inEnding
  rcases canonical_segments read with ⟨path, nonempty, shown, segments⟩
  have slash : '/' = '/' ∨ '/' = '\\' := Or.inl rfl
  have collected := pathState_segments path ends [] segments nonempty
  unfold parse
  rw [preprocess_visible allVisible, shown, List.cons_append, pathStartState, if_pos slash,
    collected, List.nil_append, serializePath_eq path nonempty]

theorem parse_path_eq_iff (text : List Char) :
    serializePath (parse text).path = text ↔ canonical text = true := by
  constructor
  · intro same
    have read := canonical_parse text
    rw [same] at read
    exact read
  · intro read
    have same := @parse_canonical text [] read rfl (by simp)
    rw [List.append_nil] at same
    exact same

/-! ## What is read is shown as it was read -/

theorem percentEncode_visible {set : Char → Bool}
    (controls : ∀ c, c0ControlSet c = true → set c = true) (space : set ' ' = true)
    (c : Char) : ∀ shown ∈ percentEncode set c, 0x20 < shown.toNat := by
  intro shown member
  unfold percentEncode at member
  by_cases encoded : set c = true
  · rw [if_pos encoded, List.mem_flatMap] at member
    rcases member with ⟨byte, _, inByte⟩
    have plainByte := percentEncodeByte_plain byte
    rw [List.all_eq_true] at plainByte
    exact visible_of_plain (plainByte shown inByte)
  · rw [if_neg encoded, List.mem_singleton] at member
    rw [member]
    exact visible_of_not_mem (by simpa using encoded) controls space

theorem fragmentState_visible (text : List Char) :
    ∀ shown ∈ fragmentState text, 0x20 < shown.toNat := by
  intro shown member
  unfold fragmentState at member
  rw [List.mem_flatMap] at member
  rcases member with ⟨c, _, inside⟩
  apply percentEncode_visible _ _ c shown inside
  · intro c control
    simp [fragmentSet, control]
  · decide

theorem queryState_visible (text : List Char) :
    ∀ shown ∈ queryState text, 0x20 < shown.toNat := by
  have hash : 0x20 < '#'.toNat := by decide
  induction text with
  | nil =>
      intro shown member
      cases member
  | cons c rest induction =>
      intro shown member
      unfold queryState at member
      split at member
      · rw [List.mem_cons] at member
        rcases member with isHash | inside
        · rw [isHash]
          exact hash
        · exact fragmentState_visible rest shown inside
      · rw [List.mem_append] at member
        rcases member with inside | later
        · apply percentEncode_visible _ _ c shown inside
          · intro c control
            simp [specialQuerySet, querySet, control]
          · decide
        · exact induction shown later

theorem pathState_ending (text : List Char) :
    ∀ (path : List Segment) (buffer : Segment),
      terminated (pathState path buffer text).ending = true ∧
        ∀ shown ∈ (pathState path buffer text).ending, 0x20 < shown.toNat := by
  have question : 0x20 < '?'.toNat := by decide
  have hash : 0x20 < '#'.toNat := by decide
  induction text with
  | nil =>
      intro path buffer
      exact ⟨rfl, by simp [pathState]⟩
  | cons c rest induction =>
      intro path buffer
      unfold pathState
      split
      · exact induction _ []
      · split
        · refine ⟨rfl, ?_⟩
          intro shown member
          rcases List.mem_cons.mp member with isMark | inside
          · rw [isMark]
            exact question
          · exact queryState_visible rest shown inside
        · split
          · refine ⟨rfl, ?_⟩
            intro shown member
            rcases List.mem_cons.mp member with isMark | inside
            · rw [isMark]
              exact hash
            · exact fragmentState_visible rest shown inside
          · exact induction path _

theorem parse_ending (text : List Char) :
    terminated (parse text).ending = true ∧
      ∀ shown ∈ (parse text).ending, 0x20 < shown.toNat := by
  unfold parse pathStartState
  split
  · exact pathState_ending _ [] []
  · split
    · exact pathState_ending _ [] []
    · exact pathState_ending _ [] []

/-- What is shown of a URL has the same path. -/
theorem parse_serialize (text : List Char) :
    serializePath (parse (serialize (parse text))).path = serializePath (parse text).path := by
  have ends := parse_ending text
  unfold serialize
  exact parse_canonical (canonical_parse text) ends.1 ends.2

end FileUrl

end Dnst

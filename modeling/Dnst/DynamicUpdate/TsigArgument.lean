import Dnst.Keyset.Environment

/-! # TSIG credentials as an argument

The credentials are a name, a key and an algorithm with colons between them. The order of
dig, with the algorithm first, is understood as well.
-/

namespace Dnst.DynamicUpdate

/-! ## Parsing -/

/-- `split_once`. -/
def splitAt (separator : Char) : List Char → Option (List Char × List Char)
  | [] => none
  | char :: text =>
      if char = separator then some ([], text)
      else (splitAt separator text).map fun (before, after) => (char :: before, after)

structure TSigInfo (Algorithm KeyName : Type) where
  name : KeyName
  key : List UInt8
  algorithm : Algorithm
  deriving DecidableEq

/-- What is used of the `domain` crate. -/
structure TsigDomain (Algorithm KeyName : Type) where
  algorithm : List Char → Option Algorithm
  decodeBase64 : List Char → Except String (List UInt8)
  keyName : List Char → Except String KeyName

/-- The default that is also used by dig when MD5 is disabled. -/
def defaultAlgorithm : List Char := "hmac-sha256".toList

/-- Key and algorithm behind the name. -/
def keyAndAlgorithm (rest : List Char) : List Char × List Char :=
  match splitAt ':' rest with
  | some (key, algorithm) => (key, algorithm)
  | none => (rest, defaultAlgorithm)

section FromStr

variable {Algorithm KeyName : Type}

/-- With an unknown algorithm behind the key but a known one as the name, the order is the
one of dig. -/
def isDigOrder (domain : TsigDomain Algorithm KeyName) (name algorithm : List Char) : Bool :=
  (domain.algorithm algorithm).isNone ∧ (domain.algorithm name).isSome

/-- Read the parts, in this order. -/
def readParts (domain : TsigDomain Algorithm KeyName) (name key algorithm : List Char) :
    Except String (TSigInfo Algorithm KeyName) := do
  let algorithm ← match domain.algorithm algorithm with
    | some known => .ok known
    | none => .error s!"Unsupported TSIG algorithm: {String.ofList algorithm}"
  let key ← (domain.decodeBase64 key).mapError fun e => s!"TSIG key is invalid base64: {e}"
  let name ← (domain.keyName name).mapError fun e => s!"TSIG name is invalid: {e}"
  return { name, key, algorithm }

def TSigInfo.fromStr (domain : TsigDomain Algorithm KeyName) (s : List Char) :
    Except String (TSigInfo Algorithm KeyName) :=
  match splitAt ':' s with
  | none => .error "should contain at least one `:`"
  | some (name, rest) =>
      let (key, algorithm) := keyAndAlgorithm rest
      if isDigOrder domain name algorithm then readParts domain key algorithm name
      else readParts domain name key algorithm

end FromStr

/-! ## What the argument denotes -/

/-- The parts of the text, by their meaning. -/
inductive Denotes (known : List Char → Prop) (s : List Char) :
    List Char → List Char → List Char → Prop where
  | short (name key : List Char) (text : s = name ++ ':' :: key) (inName : ':' ∉ name)
      (inKey : ':' ∉ key) : Denotes known s name key defaultAlgorithm
  | full (name key algorithm : List Char) (text : s = name ++ ':' :: (key ++ ':' :: algorithm))
      (inName : ':' ∉ name) (inKey : ':' ∉ key) : Denotes known s name key algorithm
  | dig (algorithm name key : List Char) (text : s = algorithm ++ ':' :: (name ++ ':' :: key))
      (inAlgorithm : ':' ∉ algorithm) (inName : ':' ∉ name) (noAlgorithm : ¬known key) :
      Denotes known s name key algorithm

section Split

variable {separator : Char} {text before after : List Char}

theorem splitAt_append (outside : separator ∉ before) :
    splitAt separator (before ++ separator :: after) = some (before, after) := by
  induction before with
  | nil => simp [splitAt]
  | cons char before induction =>
      simp only [List.mem_cons, not_or] at outside
      rw [List.cons_append, splitAt, if_neg (Ne.symm outside.1), induction outside.2]
      rfl

theorem splitAt_none (outside : separator ∉ text) : splitAt separator text = none := by
  induction text with
  | nil => rfl
  | cons char text induction =>
      simp only [List.mem_cons, not_or] at outside
      rw [splitAt, if_neg (Ne.symm outside.1), induction outside.2]
      rfl

theorem splitAt_eq_some (split : splitAt separator text = some (before, after)) :
    text = before ++ separator :: after ∧ separator ∉ before := by
  induction text generalizing before with
  | nil => cases split
  | cons char text induction =>
      unfold splitAt at split
      by_cases same : char = separator
      · rw [if_pos same] at split
        cases split
        simp [same]
      · rw [if_neg same] at split
        rcases Option.map_eq_some_iff.mp split with ⟨⟨first, second⟩, later, parts⟩
        cases parts
        rcases induction later with ⟨whole, outside⟩
        simp [whole, outside, Ne.symm same]

theorem splitAt_eq_none (split : splitAt separator text = none) : separator ∉ text := by
  intro member
  induction text with
  | nil => cases member
  | cons char text induction =>
      unfold splitAt at split
      by_cases same : char = separator
      · rw [if_pos same] at split
        cases split
      · rw [if_neg same] at split
        have inText : separator ∈ text := by
          rcases List.mem_cons.mp member with isHead | inTail
          · exact absurd isHead.symm same
          · exact inTail
        exact induction (Option.map_eq_none_iff.mp split) inText

end Split

section Parsing

variable {Algorithm KeyName : Type} {domain : TsigDomain Algorithm KeyName}
variable {s name key algorithm : List Char} {info : TSigInfo Algorithm KeyName}

/-- The parts are these, and each of them is valid. -/
structure Reads (domain : TsigDomain Algorithm KeyName) (name key algorithm : List Char)
    (info : TSigInfo Algorithm KeyName) : Prop where
  algorithm : domain.algorithm algorithm = some info.algorithm
  key : domain.decodeBase64 key = .ok info.key
  name : domain.keyName name = .ok info.name

theorem readParts_eq_ok : readParts domain name key algorithm = .ok info ↔
    Reads domain name key algorithm info := by
  unfold readParts
  constructor
  · intro run
    cases isAlgorithm : domain.algorithm algorithm with
    | none =>
        rw [isAlgorithm] at run
        cases run
    | some known =>
        cases isKey : domain.decodeBase64 key with
        | error reason =>
            rw [isAlgorithm, isKey] at run
            cases run
        | ok octets =>
            cases isName : domain.keyName name with
            | error reason =>
                rw [isAlgorithm, isKey, isName] at run
                cases run
            | ok keyName =>
                rw [isAlgorithm, isKey, isName] at run
                cases run
                exact ⟨isAlgorithm, isKey, isName⟩
  · intro reads
    rw [reads.algorithm, reads.key, reads.name]
    rfl

/-- Exactly these texts are accepted. The name of a default that is known is no obstacle,
since a text in the order of dig has three parts. -/
theorem fromStr_eq_ok_iff (known : (domain.algorithm defaultAlgorithm).isSome = true) :
    TSigInfo.fromStr domain s = .ok info ↔ ∃ name key algorithm,
      Denotes (fun text => (domain.algorithm text).isSome = true) s name key algorithm ∧
        Reads domain name key algorithm info := by
  constructor
  · intro run
    unfold TSigInfo.fromStr at run
    split at run
    · cases run
    · next name rest first =>
        rcases splitAt_eq_some first with ⟨text, inName⟩
        unfold keyAndAlgorithm at run
        cases second : splitAt ':' rest with
        | none =>
            have inKey := splitAt_eq_none second
            have order : isDigOrder domain name defaultAlgorithm = false := by
              simp [isDigOrder, Option.isSome_iff_ne_none.mp known]
            rw [second] at run
            dsimp only at run
            rw [if_neg (by simp [order]), readParts_eq_ok] at run
            exact ⟨name, rest, defaultAlgorithm, .short name rest text inName inKey, run⟩
        | some parts =>
            rcases parts with ⟨key, algorithm⟩
            rcases splitAt_eq_some second with ⟨behind, inKey⟩
            rw [behind] at text
            rw [second] at run
            dsimp only at run
            split at run
            · next order =>
                have unknown := (of_decide_eq_true order).1
                rw [readParts_eq_ok] at run
                refine ⟨key, algorithm, name, .dig name key algorithm text inName inKey ?_, run⟩
                rw [Option.isSome_iff_ne_none, not_not]
                simpa using unknown
            · rw [readParts_eq_ok] at run
              exact ⟨name, key, algorithm, .full name key algorithm text inName inKey, run⟩
  · rintro ⟨name, key, algorithm, denotes, reads⟩
    unfold TSigInfo.fromStr
    cases denotes with
    | short name key text inName inKey =>
        have order : isDigOrder domain name defaultAlgorithm = false := by
          simp [isDigOrder, Option.isSome_iff_ne_none.mp known]
        rw [text, splitAt_append inName]
        dsimp only
        rw [keyAndAlgorithm, splitAt_none inKey]
        dsimp only
        rw [if_neg (by simp [order]), readParts_eq_ok]
        exact reads
    | full name key algorithm text inName inKey =>
        have order : isDigOrder domain name algorithm = false := by
          simp [isDigOrder, reads.algorithm]
        rw [text, splitAt_append inName]
        dsimp only
        rw [keyAndAlgorithm, splitAt_append inKey]
        dsimp only
        rw [if_neg (by simp [order]), readParts_eq_ok]
        exact reads
    | dig algorithm name key text inAlgorithm inName noAlgorithm =>
        have order : isDigOrder domain algorithm key = true := by
          rw [Option.isSome_iff_ne_none, not_not] at noAlgorithm
          simp [isDigOrder, reads.algorithm, noAlgorithm]
        rw [text, splitAt_append inAlgorithm]
        dsimp only
        rw [keyAndAlgorithm, splitAt_append inName]
        dsimp only
        rw [if_pos order, readParts_eq_ok]
        exact reads

end Parsing

namespace Reference

/-- Algorithms by their numbers of bits, and a single key. -/
def tsigDomain : TsigDomain Nat String where
  algorithm := fun text =>
    if text = "hmac-sha256".toList then some 256
    else if text = "hmac-sha512".toList then some 512
    else none
  decodeBase64 := fun text =>
    if text = "1234".toList then .ok [0xD7, 0x6D, 0xF8] else .error "illegal character"
  keyName := fun text => .ok (String.ofList text)

end Reference

theorem fromStr_eq_ok_dig :
    TSigInfo.fromStr Reference.tsigDomain "hmac-sha512:somekey:1234".toList =
      .ok ⟨"somekey", [0xD7, 0x6D, 0xF8], 512⟩ :=
  (fromStr_eq_ok_iff (by decide +kernel)).mpr ⟨"somekey".toList, "1234".toList,
    "hmac-sha512".toList, .dig "hmac-sha512".toList "somekey".toList "1234".toList rfl (by decide)
      (by decide) (by decide +kernel), ⟨by decide +kernel, rfl, rfl⟩⟩

end Dnst.DynamicUpdate

import Dnst.Foundation.FileUrl
import Dnst.Keyset.Generation
import Dnst.Keyset.Reference

/-! # URLs of key files

Creating and importing a key put `file://` in front of the path of a file; everything
that needs the file later parses the stored reference and takes the path of the URL.
The path is found again exactly if it is canonical.
-/

namespace Dnst.Keyset

open Effect

/-! ## URLs of files -/

/-- `Url::parse` of an absolute path behind `file://`. -/
def fileUrl (path : String) : Url :=
  let url := FileUrl.parse path.toList
  .file (String.ofList (FileUrl.serializePath url.path)) (String.ofList url.ending)

def AbsolutePath (path : String) : Prop := path.toList.head? = some '/'

instance (path : String) : Decidable (AbsolutePath path) :=
  inferInstanceAs (Decidable (path.toList.head? = some '/'))

/-- URLs are parsed and shown as the URL Standard has it, and `absolute` does what it
says. -/
structure FileUrlLaws (platform : Platform) : Prop where
  parse : ∀ path, AbsolutePath path → platform.parseUrl ("file://" ++ path) = .ok (fileUrl path)
  display : ∀ path ending, platform.showUrl (.file path ending) = "file://" ++ path ++ ending
  absolute : ∀ path, AbsolutePath (platform.absolute path)

/-- A path that means the same in a URL. -/
def CanonicalPath (path : String) : Prop := FileUrl.canonical path.toList = true

instance (path : String) : Decidable (CanonicalPath path) :=
  inferInstanceAs (Decidable (FileUrl.canonical path.toList = true))

/-- The file that the reference leads to. -/
def LeadsTo (platform : Platform) (reference path : String) : Prop :=
  ∃ url, platform.parseUrl reference = .ok url ∧ url.keyRef = some (.file path)

theorem keyRef_fileUrl_iff (path other : String) :
    (fileUrl path).keyRef = some (.file other) ↔
      FileUrl.serializePath (FileUrl.parse path.toList).path = other.toList := by
  unfold fileUrl Url.keyRef
  dsimp only
  rw [Option.some.injEq, KeyRef.file.injEq]
  constructor
  · intro same
    rw [← same, String.toList_ofList]
  · intro same
    rw [same, String.ofList_toList]

theorem absolute_serialize (path : String) (text : List Char)
    (shown : path.toList = FileUrl.serialize (FileUrl.parse text)) : AbsolutePath path := by
  have read := FileUrl.canonical_parse text
  rcases FileUrl.canonical_segments read with ⟨segments, _, same, _⟩
  unfold AbsolutePath
  rw [shown, FileUrl.serialize, same]
  rfl

section Laws

variable {platform : Platform} (laws : FileUrlLaws platform)

include laws

theorem leadsTo_iff {path : String} (absolute : AbsolutePath path) (other : String) :
    LeadsTo platform ("file://" ++ path) other ↔
      FileUrl.serializePath (FileUrl.parse path.toList).path = other.toList := by
  rw [← keyRef_fileUrl_iff]
  unfold LeadsTo
  rw [laws.parse path absolute]
  constructor
  · rintro ⟨url, parsed, ref⟩
    rw [← Except.ok.inj parsed] at ref
    exact ref
  · intro ref
    exact ⟨_, rfl, ref⟩

/-- A path that is stored behind `file://` as it is. -/
theorem leadsTo_self_iff {path : String} (absolute : AbsolutePath path) :
    LeadsTo platform ("file://" ++ path) path ↔ CanonicalPath path := by
  rw [leadsTo_iff laws absolute]
  exact FileUrl.parse_path_eq_iff path.toList

theorem showUrl_fileUrl (path : String) :
    ∃ shown, platform.showUrl (fileUrl path) = "file://" ++ shown ∧
      shown.toList = FileUrl.serialize (FileUrl.parse path.toList) := by
  refine ⟨_ ++ _, (laws.display _ _).trans String.append_assoc, ?_⟩
  rw [String.toList_append, String.toList_ofList, String.toList_ofList]
  rfl

/-- A URL that is parsed before it is stored. -/
theorem leadsTo_shown_iff (path : String) :
    LeadsTo platform (platform.showUrl (fileUrl path)) path ↔ CanonicalPath path := by
  rcases showUrl_fileUrl laws path with ⟨shown, same, text⟩
  rw [same, leadsTo_iff laws (absolute_serialize shown path.toList text), text,
    FileUrl.parse_serialize]
  exact FileUrl.parse_path_eq_iff path.toList

end Laws

/-! ## References in the key set -/

/-- A reference that is handed to the key set, and the file that it stands for: one
that `new_keys` has created or one that `import` was given. -/
inductive StoredFor (env : Environment) : String → String → Prop
  | createdPublic {ws after makeKsk keys path owner key}
      (absolute : AbsolutePath ws.config.keysDir)
      (software : ws.state.kmip.defaultServerId = none)
      (run : exec (newKeys env makeKsk) ws = (.ok keys, after))
      (absent : ws.keyStore (.file path) = none)
      (created : after.keyStore (.file path) = some (.publicKey owner key)) :
      StoredFor env (env.showUrl keys.publicUrl) path
  | createdPrivate {ws after makeKsk keys path key}
      (absolute : AbsolutePath ws.config.keysDir)
      (software : ws.state.kmip.defaultServerId = none)
      (run : exec (newKeys env makeKsk) ws = (.ok keys, after))
      (absent : ws.keyStore (.file path) = none)
      (created : after.keyStore (.file path) = some (.privateKey key)) :
      StoredFor env (env.showUrl keys.privateUrl) path
  | importedPublic {ws path coupled privateKey calls imported final}
      (run : exec (importedKeyFiles env ws path coupled privateKey) calls =
        (.ok imported, final)) :
      StoredFor env imported.publicKeyUrl (env.absolute path)
  | importedPrivate {ws path privatePath coupled privateKey calls imported final}
      (half : (privateKey <|> privatePathOf path) = some privatePath)
      (run : exec (importedKeyFiles env ws path coupled privateKey) calls =
        (.ok imported, final)) :
      StoredFor env imported.privateKeyUrl (env.absolute privatePath)
  | importedOnly {ws path now final}
      (run : exec (importPublicKey env path now) ws = (.ok (), final)) :
      StoredFor env ("file://" ++ env.absolute path) (env.absolute path)

section Stored

variable {env : Environment} {ws after : WorkSpace}

theorem joinPath_absolute {directory : String} (absolute : AbsolutePath directory)
    (file : String) : AbsolutePath (joinPath directory file) := by
  unfold AbsolutePath at absolute ⊢
  have nonempty : directory.toList ≠ [] := by
    intro empty
    rw [empty] at absolute
    cases absolute
  unfold joinPath
  split
  · rw [String.toList_append, List.head?_append_of_ne_nil _ nonempty]
    exact absolute
  · rw [String.toList_append, String.toList_append, List.append_assoc,
      List.head?_append_of_ne_nil _ nonempty]
    exact absolute

/-- What new keys in software amount to: the two files. -/
theorem newKeys_files {makeKsk : Bool} {keys : NewKeys}
    (software : ws.state.kmip.defaultServerId = none)
    (run : exec (newKeys env makeKsk) ws = (.ok keys, after)) :
    ∃ key calls, parsedKeys env ws key = .ok keys ∧
      after.keyStore = (withKeyFiles { ws with calls } key).keyStore := by
  cases fits : ws.config.algorithm.bitsFit with
  | false =>
      rw [exec_newKeys_unfit fits] at run
      cases run
  | true =>
      rw [exec_newKeys_files fits software] at run
      rcases exec_bind_eq_ok.mp run with ⟨key, middle, generated, written⟩
      rcases exec_perform_eq_ok generated with ⟨calls, _, same⟩
      subst same
      by_cases creates : CreatesSecret env { ws with calls } key calls
      · rcases @newKeyFiles_of_created env { ws with calls } key creates with
          ⟨_, ⟨found, parsed, files⟩ | ⟨_, reason, files⟩⟩ | ⟨_, reason, final, files, _⟩
        · rw [files] at written
          cases written
          exact ⟨key, calls, parsed, rfl⟩
        · rw [files] at written
          cases written
        · rw [files] at written
          cases written
      · rcases @newKeyFiles_of_not_created env { ws with calls } key creates with
          ⟨reason, files⟩
        rw [files] at written
        cases written

/-- The public half is the only new public key. -/
theorem publicKeyPath_of_created {key owner : _} {path : String} {found : Dnskey}
    (absent : ws.keyStore (.file path) = none)
    (created : (withKeyFiles ws key).keyStore (.file path) = some (.publicKey owner found)) :
    path = publicKeyPath ws key := by
  rcases eq_of_update absent created with ⟨same, _⟩ | ⟨_, material⟩
  · exact KeyRef.file.inj same
  · cases material

theorem secretKeyPath_of_created {key found : Dnskey} {path : String}
    (absent : ws.keyStore (.file path) = none)
    (created : (withKeyFiles ws key).keyStore (.file path) = some (.privateKey found)) :
    path = secretKeyPath ws key := by
  rcases eq_of_update absent created with ⟨_, material⟩ | ⟨same, _⟩
  · cases material
  · exact KeyRef.file.inj same

theorem parsedKeys_urls (laws : FileUrlLaws env.toPlatform)
    (absolute : AbsolutePath ws.config.keysDir) {key : Dnskey} {keys : NewKeys}
    (parsed : parsedKeys env ws key = .ok keys) :
    keys.publicUrl = fileUrl (publicKeyPath ws key) ∧
      keys.privateUrl = fileUrl (secretKeyPath ws key) := by
  have secret := laws.parse (secretKeyPath ws key) (joinPath_absolute absolute _)
  have publicHalf := laws.parse (publicKeyPath ws key) (joinPath_absolute absolute _)
  unfold parsedKeys at parsed
  rw [secret, publicHalf] at parsed
  cases parsed
  exact ⟨rfl, rfl⟩

theorem makeAbsolute_eq {path found : String} {calls final : Nat}
    (run : exec (makeAbsolute env path) calls = (.ok found, final)) :
    found = env.absolute path := by
  unfold makeAbsolute at run
  rcases exec_bind_eq_ok.mp run with ⟨_, _, _, returned⟩
  cases returned
  rfl

theorem importedKeyFiles_urls {path : String} {coupled : Bool} {privateKey : Option String}
    {calls final : Nat} {imported : ImportedKey}
    (run : exec (importedKeyFiles env ws path coupled privateKey) calls =
      (.ok imported, final)) :
    ∃ privatePath, (privateKey <|> privatePathOf path) = some privatePath ∧
      imported.publicKeyUrl = "file://" ++ env.absolute path ∧
      imported.privateKeyUrl = "file://" ++ env.absolute privatePath := by
  unfold importedKeyFiles at run
  cases half : (privateKey <|> privatePathOf path) with
  | none =>
      rw [half] at run
      cases run
  | some privatePath =>
      rw [half] at run
      rcases exec_bind_eq_ok.mp run with ⟨secretKey, _, _, run⟩
      rcases exec_bind_eq_ok.mp run with ⟨⟨owner, publicKey⟩, _, _, run⟩
      rcases exec_bind_eq_ok.mp run with ⟨_, _, _, run⟩
      rcases exec_bind_eq_ok.mp run with ⟨_, _, _, run⟩
      rcases exec_bind_eq_ok.mp run with ⟨publicPath, _, publicAbsolute, run⟩
      rcases exec_bind_eq_ok.mp run with ⟨absolutePath, _, privateAbsolute, run⟩
      have publicSame := makeAbsolute_eq publicAbsolute
      have privateSame := makeAbsolute_eq privateAbsolute
      subst publicSame privateSame
      cases run
      exact ⟨privatePath, rfl, rfl, rfl⟩

end Stored

/-- A stored reference leads back to its file exactly if the path of the file is
canonical. -/
theorem storedFor_leadsTo_iff {env : Environment} (laws : FileUrlLaws env.toPlatform)
    {reference path : String} (stored : StoredFor env reference path) :
    LeadsTo env.toPlatform reference path ↔ CanonicalPath path := by
  cases stored with
  | createdPublic absolute software run absent created =>
      rcases newKeys_files software run with ⟨key, calls, parsed, files⟩
      rw [files] at created
      have same := publicKeyPath_of_created absent created
      rw [(parsedKeys_urls laws absolute parsed).1, same]
      exact leadsTo_shown_iff laws _
  | createdPrivate absolute software run absent created =>
      rcases newKeys_files software run with ⟨key, calls, parsed, files⟩
      rw [files] at created
      have same := secretKeyPath_of_created absent created
      rw [(parsedKeys_urls laws absolute parsed).2, same]
      exact leadsTo_shown_iff laws _
  | importedPublic run =>
      rcases importedKeyFiles_urls run with ⟨privatePath, _, same, _⟩
      rw [same]
      exact leadsTo_self_iff laws (laws.absolute _)
  | importedPrivate half run =>
      rcases importedKeyFiles_urls run with ⟨privatePath, found, _, same⟩
      rw [half] at found
      cases found
      rw [same]
      exact leadsTo_self_iff laws (laws.absolute _)
  | importedOnly run => exact leadsTo_self_iff laws (laws.absolute _)

/-! ## Keys of the worked platform -/

namespace Reference

/-- URLs as the URL Standard has them, with the root as the working directory. -/
def standardPlatform : Platform :=
  { platform with
    parseUrl := fun text =>
      match text.toList with
      | 'f' :: 'i' :: 'l' :: 'e' :: ':' :: '/' :: '/' :: '/' :: path =>
          .ok (fileUrl (String.ofList ('/' :: path)))
      | _ => parseUrl text
    absolute := fun path => if path.toList.head? = some '/' then path else "/" ++ path }

theorem standardPlatform_laws : FileUrlLaws standardPlatform where
  parse := by
    intro path absolute
    unfold AbsolutePath at absolute
    rcases split : path.toList with _ | ⟨first, rest⟩
    · rw [split] at absolute
      cases absolute
    · rw [split] at absolute
      cases absolute
      have text : ("file://" ++ path).toList =
          'f' :: 'i' :: 'l' :: 'e' :: ':' :: '/' :: '/' :: '/' :: rest := by
        rw [String.toList_append, split]
        rfl
      have whole : path = String.ofList ('/' :: rest) := by rw [← split, String.ofList_toList]
      unfold standardPlatform
      dsimp only
      rw [text, whole]
      rfl
  display := fun _ _ => rfl
  absolute := by
    intro path
    unfold standardPlatform AbsolutePath
    dsimp only
    split
    · assumption
    · rw [String.toList_append]
      rfl

def standardEnvironment : Environment :=
  { environment 4 (fromSecs 1000000) with toPlatform := standardPlatform }

/-- A zone whose keys are to be created in the directory. -/
def keysIn (keysDir : String) : WorkSpace :=
  (create zone "/keys/state" keysDir ⟨[]⟩ fun _ => none).load

def fourthKey : Dnskey := ⟨257, 13, 400, 400⟩

theorem newKeys_storedFor {keysDir path : String} {keys : NewKeys}
    (absolute : AbsolutePath keysDir)
    (returned : (exec (newKeys standardEnvironment true) (keysIn keysDir)).1.toOption = some keys)
    (created : (exec (newKeys standardEnvironment true) (keysIn keysDir)).2.keyStore
      (.file path) = some (.publicKey zone fourthKey)) :
    StoredFor standardEnvironment (standardEnvironment.showUrl keys.publicUrl) path :=
  .createdPublic absolute rfl (exec_eq_of_toOption returned) rfl created

end Reference

theorem storedFor_leadsTo_plainDirectory :
    LeadsTo Reference.standardEnvironment.toPlatform
      "file:///keys/Kexample.com.+013+00400.key" "/keys/Kexample.com.+013+00400.key" := by
  have stored : StoredFor Reference.standardEnvironment
      "file:///keys/Kexample.com.+013+00400.key" "/keys/Kexample.com.+013+00400.key" :=
    @Reference.newKeys_storedFor "/keys" _ ⟨.file "/keys/Kexample.com.+013+00400.key",
      .file "/keys/Kexample.com.+013+00400.private", 13, 400⟩ (by decide)
      (by decide +kernel) (by decide +kernel)
  exact (storedFor_leadsTo_iff Reference.standardPlatform_laws stored).mpr (by decide +kernel)

/-- A blank in the path of the keys directory. -/
theorem storedFor_blankInDirectory :
    ¬ ∀ (env : Environment) (reference path : String), FileUrlLaws env.toPlatform →
      StoredFor env reference path → LeadsTo env.toPlatform reference path := by
  intro roundTrips
  have stored : StoredFor Reference.standardEnvironment
      "file:///my%20keys/Kexample.com.+013+00400.key"
      "/my keys/Kexample.com.+013+00400.key" :=
    @Reference.newKeys_storedFor "/my keys" _ ⟨.file "/my%20keys/Kexample.com.+013+00400.key",
      .file "/my%20keys/Kexample.com.+013+00400.private", 13, 400⟩ (by decide)
      (by decide +kernel) (by decide +kernel)
  rcases roundTrips _ _ _ Reference.standardPlatform_laws stored with ⟨url, parsed, ref⟩
  have elsewhere : ((Reference.standardEnvironment.parseUrl
      "file:///my%20keys/Kexample.com.+013+00400.key").toOption.bind Url.keyRef) =
        some (.file "/my%20keys/Kexample.com.+013+00400.key") := by decide +kernel
  rw [parsed] at elsewhere
  change url.keyRef = _ at elsewhere
  rw [ref] at elsewhere
  revert elsewhere
  decide

end Dnst.Keyset

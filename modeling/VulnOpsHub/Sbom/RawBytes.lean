import Mathlib.Data.Bool.AllAny
import VulnOpsHub.Sbom.RawStore

set_option autoImplicit false

/-! # Raw bytes come back

What a sequence of calls has stored is read back, unless the id of an organization has a character
that a URL parser cuts at or removes: the key of its bills of materials is then not the key that is
parsed. -/

namespace VulnOpsHub

namespace Sbom

/-! ## Keys and URIs -/

/-- A bucket name that the service accepts. -/
def BucketName (bucket : String) : Prop :=
  bucket ≠ "" ∧ ∀ c ∈ bucket.toList, c.isAlphanum = true ∨ c ∈ ['.', '-', '_']

/-- A hexadecimal digest. -/
def HexDigest (digest : String) : Prop := ∀ c ∈ digest.toList, c ∈ "0123456789abcdef".toList

/-- No character of the organization is special in a URL. -/
def UrlPlain (organizationId : String) : Prop := ∀ c ∈ organizationId.toList, c ∉ Url.special

section Keys

variable {organizationId digest key : String}

theorem slash_of_safe (h : unsafeSegment organizationId = false) : '/' ∉ organizationId.toList := by
  intro hmem
  simp [unsafeSegment, hmem] at h

theorem key_toList (h : sbomObjectKey organizationId digest = .ok key) : key.toList =
    ['/'].intercalate ["sbom".toList, organizationId.toList, digest.toList ++ ".json".toList] := by
  obtain ⟨-, rfl⟩ := sbomObjectKey_eq_ok.1 h
  simp only [String.toList_append, List.append_assoc, List.intercalate_cons_cons,
    List.intercalate_singleton]
  rfl

theorem bucketName_plain {bucket : String} (h : BucketName bucket) :
    IsAscii bucket.toList ∧ '[' ∉ bucket.toList ∧ ']' ∉ bucket.toList ∧
      ∀ c ∈ bucket.toList, c ∉ '/' :: Url.special := by
  have hne : ∀ c ∈ bucket.toList, ∀ d : Char, d.isAlphanum = false → d ∉ ['.', '-', '_'] → c ≠ d := by
    rintro c hc d hd hd' rfl
    rcases h.2 c hc with halnum | hmem
    · rw [hd] at halnum
      exact Bool.noConfusion halnum
    · exact hd' hmem
  refine ⟨fun c hc => ?_, fun hmem => hne _ hmem '[' (by decide) (by decide) rfl,
    fun hmem => hne _ hmem ']' (by decide) (by decide) rfl, fun c hc hspecial => ?_⟩
  · rcases h.2 c hc with halnum | hmem
    · exact isAlphanum_ascii halnum
    · simp only [List.mem_cons, List.not_mem_nil, or_false] at hmem
      rcases hmem with rfl | rfl | rfl <;> decide
  · refine hne c hc c ?_ ?_ rfl
    · have hall : ∀ d ∈ '/' :: Url.special, d.isAlphanum = false :=
        List.all_iff_forall_prop.1 (by decide)
      exact hall c hspecial
    · have hall : ∀ d ∈ '/' :: Url.special, d ∉ ['.', '-', '_'] :=
        List.all_iff_forall_prop.1 (by decide)
      exact hall c hspecial

theorem hexDigest_plain (h : HexDigest digest) :
    ∀ c ∈ digest.toList ++ ".json".toList, c ∉ '/' :: Url.special := by
  have hall : ∀ d ∈ "0123456789abcdef".toList ++ ".json".toList, d ∉ '/' :: Url.special := by
    exact List.all_iff_forall_prop.1 (by decide +kernel)
  intro c hc
  refine hall c ?_
  rcases List.mem_append.1 hc with hc | hc
  · exact List.mem_append_left _ (h c hc)
  · exact List.mem_append_right _ hc

variable [UrlHost]

/-- **The key of plain parts is parsed back.** -/
theorem parseObjectUri_plain {bucket : String} (hkey : sbomObjectKey organizationId digest = .ok key)
    (hbucket : BucketName bucket) (hdigest : HexDigest digest) (hplain : UrlPlain organizationId) :
    parseObjectUri (objectUri bucket key) = .ok (bucket, key) := by
  obtain ⟨hascii, hopen, hclose, hnetloc⟩ := bucketName_plain hbucket
  have hkeyPlain : ∀ c ∈ key.toList, c ∉ Url.special := by
    intro c hc
    rw [key_toList hkey] at hc
    rcases mem_intercalate hc with rfl | ⟨part, hpart, hc⟩
    · decide
    · simp only [List.mem_cons, List.not_mem_nil, or_false] at hpart
      rcases hpart with rfl | rfl | rfl
      · have hall : ∀ d ∈ ['s', 'b', 'o', 'm'], d ∉ Url.special :=
          List.all_iff_forall_prop.1 (by decide)
        exact hall c hc
      · exact hplain c hc
      · exact fun hmem => hexDigest_plain hdigest c hc (List.mem_cons_of_mem _ hmem)
  have huri : (objectUri bucket key).toList
      = ['s', '3'] ++ ':' :: '/' :: '/' :: (bucket.toList ++ '/' :: key.toList) := by
    unfold objectUri
    simp only [String.toList_append, List.append_assoc]
    rfl
  have hfirst : ∃ rest, key.toList = 's' :: rest := by
    rw [key_toList hkey]
    exact ⟨_, rfl⟩
  obtain ⟨rest, hrest⟩ := hfirst
  have hdrop : ('/' :: key.toList).dropWhile (· = '/') = key.toList := by
    rw [hrest]
    rfl
  have hnonempty : bucket.toList ≠ [] := fun hnil => hbucket.1 (String.toList_eq_nil_iff.1 hnil)
  unfold parseObjectUri
  rw [huri, Url.split_plain (by decide) (by decide)
    (UrlHost.refusal_plain _ hascii hopen hclose) hnetloc hkeyPlain]
  simp only [except_ok_bind, hdrop]
  have hpass : raiseIf (lowerChars ['s', '3'] ≠ ['s', '3'] ∨ bucket.toList = [] ∨ key.toList = [])
      (.valueError ("unsupported object URI: " ++ objectUri bucket key)) = .ok () := by
    refine raiseIf_eq_ok.2 ?_
    rintro (hscheme | hnil | hnil)
    · exact hscheme (by decide)
    · exact hnonempty hnil
    · rw [hrest] at hnil
      cases hnil
  rw [hpass]
  simp

/-- What is parsed has no special character in its key. -/
theorem parseObjectUri_key {uri bucket : String} (h : parseObjectUri uri = .ok (bucket, key)) :
    ∀ c ∈ key.toList, c ∉ Url.special := by
  simp only [parseObjectUri, except_bind_eq_ok] at h
  obtain ⟨parsed, hsplit, -, -, hresult⟩ := h
  obtain ⟨-, rfl⟩ := Prod.mk.inj (Except.ok.inj hresult)
  intro c hc
  rw [String.toList_ofList] at hc
  exact Url.path_plain hsplit (List.dropWhile_subset _ hc)

/-- **Exactly the plain organizations** have keys that are parsed back. -/
theorem parseObjectUri_iff {bucket : String} (hkey : sbomObjectKey organizationId digest = .ok key)
    (hbucket : BucketName bucket) (hdigest : HexDigest digest) :
    parseObjectUri (objectUri bucket key) = .ok (bucket, key) ↔ UrlPlain organizationId := by
  refine ⟨fun hparse c hc => parseObjectUri_key hparse c ?_,
    parseObjectUri_plain hkey hbucket hdigest⟩
  obtain ⟨-, rfl⟩ := sbomObjectKey_eq_ok.1 hkey
  simp only [String.toList_append, List.mem_append]
  exact Or.inl (Or.inl (Or.inl (Or.inr hc)))

end Keys

/-! ## Names -/

namespace RawCall

variable [Sha256]

/-- The key of a call's bill of materials. -/
def key (call : RawCall) : String := "sbom/" ++ call.organizationId ++ "/" ++ call.digest ++ ".json"

def evidencePath (call : RawCall) : String :=
  "storage/evidence/" ++ call.organizationId ++ "/" ++ call.digest ++ ".json"

/-- The last part of all names that a call uses. -/
def fileName (call : RawCall) : List Char := call.digest.toList ++ ".json".toList

/-- What a call returns. -/
def uri (settings : StorageSettings) (call : RawCall) : Option String :=
  match call.kind with
  | .sbom => some (objectUri settings.bucket call.key)
  | .evidence => none

theorem uri_sbom {settings : StorageSettings} {call : RawCall} (h : call.kind = .sbom) :
    call.uri settings = some (objectUri settings.bucket call.key) := by
  unfold uri
  rw [h]

theorem uri_evidence {settings : StorageSettings} {call : RawCall} (h : call.kind = .evidence) :
    call.uri settings = none := by
  unfold uri
  rw [h]

theorem key_ok (call : RawCall) : sbomObjectKey call.organizationId call.digest = .ok call.key :=
  sbomObjectKey_eq_ok.2 ⟨call.safe, rfl⟩

theorem evidencePath_ok (call : RawCall) :
    evidenceLocalPath call.organizationId call.digest = .ok call.evidencePath := by
  unfold evidenceLocalPath
  rw [validateOrganizationId_eq_ok.2 ⟨call.safe, rfl⟩]
  rfl

/-- The name ends with the digest. -/
def Names (call : RawCall) (name : String) : Prop := splitLast '/' name.toList = call.fileName

variable {call : RawCall}

theorem slash_fileName (h : HexDigest call.digest) : '/' ∉ call.fileName :=
  fun hmem => hexDigest_plain h '/' hmem (by decide)

theorem names_of_suffix (h : HexDigest call.digest) {name : String} (front : List Char)
    (hname : name.toList = front ++ '/' :: call.fileName) : call.Names name := by
  unfold Names
  rw [hname, splitLast_append_cons (slash_fileName h)]

theorem names_localSbomPath (h : HexDigest call.digest) : call.Names (localSbomPath call.key) := by
  refine names_of_suffix h ("storage/sbom/".toList ++ call.organizationId.toList) ?_
  unfold localSbomPath key fileName
  simp only [String.toList_append, List.append_assoc]
  rfl

theorem names_evidencePath (h : HexDigest call.digest) : call.Names call.evidencePath := by
  refine names_of_suffix h ("storage/evidence/".toList ++ call.organizationId.toList) ?_
  unfold evidencePath fileName
  simp only [String.toList_append, List.append_assoc]
  rfl

theorem names_objectUri (h : HexDigest call.digest) (bucket : String) :
    call.Names (objectUri bucket call.key) := by
  refine names_of_suffix h
    ("s3://".toList ++ bucket.toList ++ "/sbom/".toList ++ call.organizationId.toList) ?_
  unfold objectUri key fileName
  simp only [String.toList_append, List.append_assoc]
  rfl

end RawCall

/-! ## What a run leaves -/

section Runs

variable [Sha256]

/-- The digests of the calls are hexadecimal, and tell their bytes apart. -/
structure Digested (calls : List RawCall) : Prop where
  hex : ∀ call ∈ calls, HexDigest call.digest
  told : ∀ call ∈ calls, ∀ call' ∈ calls, call.digest = call'.digest → call.rawBytes = call'.rawBytes

/-- Everything is named by the digest of its content, and comes from a call. -/
def Named (calls : List RawCall) (files : Files) : Prop :=
  ∀ name content, files name = some content →
    ∃ call ∈ calls, call.Names name ∧ content = call.rawBytes

/-- What was stored stays. -/
def Extends (files files' : Files) : Prop :=
  ∀ name content, files name = some content → files' name = some content

variable {calls : List RawCall} {call : RawCall} {files : Files} {settings : StorageSettings}

/-- A name of a call holds nothing but the call's bytes. -/
theorem Named.content_eq (hnamed : Named calls files) (hdigested : Digested calls)
    (hcall : call ∈ calls) {name : String} (hname : call.Names name) {content : ByteArray}
    (hcontent : files name = some content) : content = call.rawBytes := by
  obtain ⟨call', hcall', hname', rfl⟩ := hnamed name content hcontent
  refine hdigested.told call' hcall' call hcall ?_
  exact String.toList_inj.1 (List.append_cancel_right (hname'.symm.trans hname))

theorem Named.update (hnamed : Named calls files) (hcall : call ∈ calls) {name : String}
    (hname : call.Names name) :
    Named calls (Function.update files name (some call.rawBytes)) := by
  intro other content hcontent
  by_cases hother : other = name
  · subst hother
    rw [Function.update_self] at hcontent
    exact ⟨call, hcall, hname, (Option.some.inj hcontent).symm⟩
  · rw [Function.update_of_ne hother] at hcontent
    exact hnamed other content hcontent

theorem Named.extends_update (hnamed : Named calls files) (hdigested : Digested calls)
    (hcall : call ∈ calls) {name : String} (hname : call.Names name) :
    Extends files (Function.update files name (some call.rawBytes)) := by
  intro other content hcontent
  by_cases hother : other = name
  · subst hother
    rw [Function.update_self, hnamed.content_eq hdigested hcall hname hcontent]
  · rw [Function.update_of_ne hother, hcontent]

/-- A write that finds its file finds its own bytes. -/
theorem Named.writeOnce (hnamed : Named calls files) (hdigested : Digested calls)
    (hcall : call ∈ calls) (mismatch : String) {name : String} (hname : call.Names name) :
    VulnOpsHub.writeOnce mismatch name call.rawBytes call.digest files
      = .ok (Function.update files name (some call.rawBytes)) := by
  unfold VulnOpsHub.writeOnce
  cases hcontent : files name with
  | none => rfl
  | some content =>
      obtain rfl := hnamed.content_eq hdigested hcall hname hcontent
      simp only [RawCall.digest, if_true]
      rw [← hcontent, Function.update_eq_self]

/-- The bytes of a call are where they are looked for. -/
structure RawCall.Stored (settings : StorageSettings) (call : RawCall) (objects files : Files) :
    Prop where
  object : call.kind = .sbom → settings.state = .enabled →
    objects (objectUri settings.bucket call.key) = some call.rawBytes
  sbomFile : call.kind = .sbom → settings.state ≠ .enabled →
    files (localSbomPath call.key) = some call.rawBytes
  evidenceFile : call.kind = .evidence → files call.evidencePath = some call.rawBytes

theorem RawCall.Stored.mono {objects objects' files' : Files} (h : call.Stored settings objects files)
    (hobjects : Extends objects objects') (hfiles : Extends files files') :
    call.Stored settings objects' files' :=
  ⟨fun hkind henabled => hobjects _ _ (h.object hkind henabled),
    fun hkind hdisabled => hfiles _ _ (h.sbomFile hkind hdisabled),
    fun hkind => hfiles _ _ (h.evidenceFile hkind)⟩

/-- The step from one pair of stores to the next. -/
structure Kept (settings : StorageSettings) (calls done : List RawCall)
    (objects files objects' files' : Files) : Prop where
  objects_named : Named calls objects'
  files_named : Named calls files'
  objects_extends : Extends objects objects'
  files_extends : Extends files files'
  stored : ∀ call ∈ done, call.Stored settings objects' files'

variable {objects : Files}

/-- **One call** returns its URI and stores its bytes; what was stored stays. -/
theorem persist_kept (hready : settings.Ready) (hdigested : Digested calls) (hcall : call ∈ calls)
    (hobjects : Named calls objects) (hfiles : Named calls files) :
    ∃ objects' files', call.persist settings objects files
        = .ok (call.uri settings, objects', files') ∧
      Kept settings calls [call] objects files objects' files' := by
  have hhex := hdigested.hex call hcall
  have hdigest : raiseIf (call.digest ≠ Sha256.hexdigest call.rawBytes)
      (.valueError "digest does not match raw_bytes content") = .ok () :=
    raiseIf_eq_ok.2 (not_not.2 rfl)
  have hdigest' : raiseIf (Sha256.hexdigest call.rawBytes ≠ call.digest)
      (.valueError "digest does not match raw evidence content") = .ok () :=
    raiseIf_eq_ok.2 (not_not.2 rfl)
  have hself : ∀ files : Files, Extends files files := fun _ _ _ h => h
  cases hkind : call.kind with
  | sbom =>
      have hname := RawCall.names_localSbomPath hhex
      have hobject := RawCall.names_objectUri hhex settings.bucket
      have hconfigured : ∀ e : PyError, raiseIf (settings.state = .incomplete) e = .ok () :=
        fun _ => raiseIf_eq_ok.2 hready.configured
      have hwrite := hfiles.writeOnce hdigested hcall "existing local SBOM digest mismatch" hname
      have hpersist : ∀ objects' files', putObject settings call.key call.rawBytes call.digest
          objects files = .ok (objects', files') →
          call.persist settings objects files = .ok (call.uri settings, objects', files') := by
        intro objects' files' hput
        simp only [RawCall.persist, RawCall.uri_sbom hkind, hkind, persistSbomRawBytes, hdigest, hconfigured,
          call.key_ok, hput, except_ok_bind]
        rfl
      have hnoEvidence : call.kind ≠ .evidence := by
        rw [hkind]
        decide
      by_cases henabled : settings.state = .enabled
      · have hobjectStored := hobjects.update hcall hobject
        by_cases hmirror : settings.localMirror = true
        · refine ⟨_, _, hpersist _ (Function.update files _ (some call.rawBytes)) ?_, hobjectStored,
            hfiles.update hcall hname, hobjects.extends_update hdigested hcall hobject,
            hfiles.extends_update hdigested hcall hname, ?_⟩
          · simp only [putObject, hready.failure_ok, except_ok_bind, if_pos henabled,
              if_pos (Or.inr hmirror : settings.state ≠ .enabled ∨ settings.localMirror = true),
              hwrite]
            rfl
          · intro other hother
            obtain rfl := List.mem_singleton.1 hother
            exact ⟨fun _ _ => Function.update_self _ _ _, fun _ _ => Function.update_self _ _ _,
              fun hevidence => absurd hevidence hnoEvidence⟩
        · refine ⟨_, _, hpersist _ files ?_, hobjectStored, hfiles,
            hobjects.extends_update hdigested hcall hobject, hself _, ?_⟩
          · simp only [putObject, hready.failure_ok, except_ok_bind, if_pos henabled,
              if_neg (not_or.2 ⟨not_not.2 henabled, hmirror⟩)]
            rfl
          · intro other hother
            obtain rfl := List.mem_singleton.1 hother
            exact ⟨fun _ _ => Function.update_self _ _ _,
              fun _ hdisabled => absurd henabled hdisabled,
              fun hevidence => absurd hevidence hnoEvidence⟩
      · refine ⟨_, _, hpersist objects (Function.update files _ (some call.rawBytes)) ?_, hobjects,
          hfiles.update hcall hname, hself _, hfiles.extends_update hdigested hcall hname, ?_⟩
        · simp only [putObject, hready.failure_ok, except_ok_bind, if_neg henabled,
            if_pos (Or.inl henabled : settings.state ≠ .enabled ∨ settings.localMirror = true),
            hwrite]
          rfl
        · intro other hother
          obtain rfl := List.mem_singleton.1 hother
          exact ⟨fun _ h => absurd h henabled, fun _ _ => Function.update_self _ _ _,
            fun hevidence => absurd hevidence hnoEvidence⟩
  | evidence =>
      have hname := RawCall.names_evidencePath hhex
      refine ⟨objects, Function.update files call.evidencePath (some call.rawBytes), ?_, hobjects,
        hfiles.update hcall hname, hself _, hfiles.extends_update hdigested hcall hname, ?_⟩
      · have hwrite := hfiles.writeOnce hdigested hcall
          "existing local evidence digest mismatch" hname
        simp only [RawCall.persist, RawCall.uri_evidence hkind, hkind, persistEvidenceBytes, hdigest',
          except_ok_bind, call.evidencePath_ok, writeIdempotent, hwrite]
        rfl
      · intro other hother
        obtain rfl := List.mem_singleton.1 hother
        refine ⟨fun hsbom => ?_, fun hsbom => ?_, fun _ => Function.update_self _ _ _⟩
        · rw [hkind] at hsbom
          cases hsbom
        · rw [hkind] at hsbom
          cases hsbom

/-- **A run** returns the URIs and keeps the bytes of all its calls. -/
theorem persistAll_kept (hready : settings.Ready) (hdigested : Digested calls) (rest : List RawCall)
    (hrest : rest ⊆ calls) (hobjects : Named calls objects) (hfiles : Named calls files) :
    ∃ objects' files', persistAll settings rest objects files
        = .ok (rest.map fun call => (call, call.uri settings), objects', files') ∧
      Kept settings calls rest objects files objects' files' := by
  induction rest generalizing objects files with
  | nil =>
      exact ⟨objects, files, rfl, hobjects, hfiles, fun _ _ h => h, fun _ _ h => h,
        fun _ hcall => absurd hcall List.not_mem_nil⟩
  | cons call rest ih =>
      obtain ⟨objects₁, files₁, hpersist, hkept⟩ :=
        persist_kept hready hdigested (hrest List.mem_cons_self) hobjects hfiles
      obtain ⟨objects₂, files₂, hrun, hkept'⟩ :=
        ih (fun _ hother => hrest (List.mem_cons_of_mem _ hother)) hkept.objects_named
          hkept.files_named
      refine ⟨objects₂, files₂, ?_, hkept'.objects_named, hkept'.files_named,
        fun name content h => hkept'.objects_extends _ _ (hkept.objects_extends _ _ h),
        fun name content h => hkept'.files_extends _ _ (hkept.files_extends _ _ h), ?_⟩
      · simp only [persistAll, hpersist, hrun, except_ok_bind]
        rfl
      · intro other hother
        rcases List.mem_cons.1 hother with rfl | hother
        · exact (hkept.stored _ (List.mem_singleton.2 rfl)).mono hkept'.objects_extends
            hkept'.files_extends
        · exact hkept'.stored other hother

end Runs

/-! ## Reading -/

section Reading

variable [Sha256] [UrlHost] {calls : List RawCall} {call : RawCall} {objects files : Files}
  {settings : StorageSettings}

/-- Evidence is found by its path, or as a bill of materials with the same content. -/
theorem readRawBytes_evidence (hdigested : Digested calls) (hcall : call ∈ calls)
    (hfiles : Named calls files) (hstored : call.Stored settings objects files)
    (hkind : call.kind = .evidence) : readRawBytes settings objects files call.organizationId
      call.digest (call.uri settings) = .ok (some call.rawBytes) := by
  have hfound : (files (localSbomPath call.key)).or (files call.evidencePath)
      = some call.rawBytes := by
    cases hsbom : files (localSbomPath call.key) with
    | none => exact hstored.evidenceFile hkind
    | some content =>
        rw [hfiles.content_eq hdigested hcall
          (RawCall.names_localSbomPath (hdigested.hex call hcall)) hsbom]
        rfl
  simp only [readRawBytes, RawCall.uri_evidence hkind, validateOrganizationId_eq_ok.2 ⟨call.safe, rfl⟩,
    localBytes, call.key_ok, call.evidencePath_ok, except_ok_bind, hfound]
  rfl

omit [UrlHost] in
/-- The local store is asked for the very file that was written. -/
theorem localObjectBytes_key (hhex : HexDigest call.digest)
    (hstored : files (localSbomPath call.key) = some call.rawBytes) :
    localObjectBytes files call.key = .ok call.rawBytes := by
  have hparts : call.key.toList.splitOn '/' =
      ["sbom".toList, call.organizationId.toList, call.digest.toList ++ ".json".toList] := by
    rw [key_toList call.key_ok]
    refine List.splitOn_intercalate '/' ?_ (by simp)
    intro part hpart
    simp only [List.mem_cons, List.not_mem_nil, or_false] at hpart
    rcases hpart with rfl | rfl | rfl
    · simp
    · exact slash_of_safe call.safe
    · exact RawCall.slash_fileName hhex
  have hremove : removeJson (call.digest.toList ++ ".json".toList) = call.digest.toList := by
    unfold removeJson
    rw [if_pos (List.suffix_append _ _)]
    simp
  unfold localObjectBytes
  rw [hparts]
  simp only [if_true, hremove, String.ofList_toList, call.key_ok]
  show (files (localSbomPath call.key)).elim (Except.error ReadError.fileNotFound) Except.ok = _
  rw [hstored]
  rfl

/-- A bill of materials of a plain organization is found by its URI. -/
theorem readRawBytes_sbom (hready : settings.Ready) (hbucket : BucketName settings.bucket)
    (hhex : HexDigest call.digest) (hplain : UrlPlain call.organizationId)
    (hstored : call.Stored settings objects files) (hkind : call.kind = .sbom) :
    readRawBytes settings objects files call.organizationId call.digest (call.uri settings)
      = .ok (some call.rawBytes) := by
  have hparse := parseObjectUri_plain call.key_ok hbucket hhex hplain
  have hget : getObjectBytes settings objects files (objectUri settings.bucket call.key)
      = .ok call.rawBytes := by
    cases hstate : settings.state with
    | incomplete => exact absurd hstate hready.configured
    | enabled =>
        simp only [getObjectBytes, hparse, hstate, hready.reachable hstate]
        show (objects (objectUri settings.bucket call.key)).elim _ _ = _
        rw [hstored.object hkind hstate]
        rfl
    | disabled =>
        have hfile := hstored.sbomFile hkind (by
          rw [hstate]
          decide)
        simp only [getObjectBytes, hparse, hstate]
        exact localObjectBytes_key hhex hfile
  have hscheme : (some (objectUri settings.bucket call.key)).filter
      (fun uri => decide ("s3://".toList <+: uri.toList))
        = some (objectUri settings.bucket call.key) := by
    refine Option.filter_eq_some_iff.2 ⟨rfl, decide_eq_true ?_⟩
    unfold objectUri
    simp only [String.toList_append, List.append_assoc]
    exact List.prefix_append _ _
  simp only [readRawBytes, RawCall.uri_sbom hkind, validateOrganizationId_eq_ok.2 ⟨call.safe, rfl⟩,
    hscheme, hget]
  rfl

/-! ## Exactly when -/

/-- A sequence of calls succeeds from empty stores, the URIs of the bills of materials are parsed back
    into the bucket and the key, and every call's bytes are read by what it returned. -/
def RawBytesComeBack (settings : StorageSettings) (calls : List RawCall) : Prop :=
  ∃ answers objects files,
    persistAll settings calls (fun _ => none) (fun _ => none) = .ok (answers, objects, files) ∧
    answers.map Prod.fst = calls ∧ ∀ answer ∈ answers,
      (answer.1.kind = .sbom → ∃ key, sbomObjectKey answer.1.organizationId answer.1.digest = .ok key ∧
        answer.2 = some (objectUri settings.bucket key) ∧
        parseObjectUri (objectUri settings.bucket key) = .ok (settings.bucket, key)) ∧
      (answer.1.kind = .evidence → answer.2 = none) ∧
      readRawBytes settings objects files answer.1.organizationId answer.1.digest answer.2
        = .ok (some answer.1.rawBytes)

/-- **Exactly when raw bytes come back**: the organizations of the bills of materials are plain. -/
theorem rawBytesComeBack_iff (settings : StorageSettings) (calls : List RawCall)
    (hready : settings.Ready) (hbucket : BucketName settings.bucket) (hdigested : Digested calls) :
    RawBytesComeBack settings calls ↔
      ∀ call ∈ calls, call.kind = .sbom → UrlPlain call.organizationId := by
  have hempty : Named calls fun _ => none := fun _ _ h => by cases h
  obtain ⟨objects, files, hrun, hkept⟩ :=
    persistAll_kept hready hdigested calls (List.Subset.refl _) hempty hempty
  constructor
  · rintro ⟨answers, objects', files', hrun', hcalls, hanswers⟩ call hcall hkind
    rw [← hcalls] at hcall
    obtain ⟨answer, hanswer, rfl⟩ := List.mem_map.1 hcall
    obtain ⟨key, hkey, -, hparse⟩ := (hanswers answer hanswer).1 hkind
    have hhex := hdigested.hex answer.1 (hcalls ▸ List.mem_map_of_mem hanswer)
    exact (parseObjectUri_iff hkey hbucket hhex).1 hparse
  · intro hplain
    refine ⟨_, objects, files, hrun, by rw [List.map_map]; exact List.map_id _, ?_⟩
    intro answer hanswer
    obtain ⟨call, hcall, rfl⟩ := List.mem_map.1 hanswer
    have hhex := hdigested.hex call hcall
    have hstored := hkept.stored call hcall
    refine ⟨fun hkind => ?_, fun hkind => RawCall.uri_evidence hkind, ?_⟩
    · refine ⟨call.key, call.key_ok, RawCall.uri_sbom hkind, ?_⟩
      exact parseObjectUri_plain call.key_ok hbucket hhex (hplain call hcall hkind)
    · cases hkind : call.kind with
      | sbom =>
          exact readRawBytes_sbom hready hbucket hhex (hplain call hcall hkind) hstored hkind
      | evidence => exact readRawBytes_evidence hdigested hcall hkept.files_named hstored hkind

end Reading

/-! ## Two organizations -/

/-- The digests of the contents below. -/
@[reducible]
def contentDigests : Sha256 where
  hexdigest bytes :=
    (List.lookup bytes
      [("\x7b\"bomFormat\":\"CycloneDX\"\x7d".toUTF8,
          "2e01b8740d2b1c7ff47487ab94ff0f7f4d2853f3d985cd6d7e381c4aa5ef9afa"),
        ("[]".toUTF8,
          "4f53cda18c2baa0c0354bb5f9a3ecbe5ed12ab4d8e11ba873c2f11161202b945")]).getD ""

/-- Hosts without brackets in ASCII are never refused. -/
@[reducible]
def plainHosts : UrlHost := ⟨fun _ => none, fun _ _ _ _ => rfl⟩

def snapshotSettings : StorageSettings := ⟨"vulnops-snapshots", .enabled, true, none⟩

def sampleRawSbom (organizationId : String) (safe : unsafeSegment organizationId = false) : RawCall :=
  ⟨.sbom, organizationId, "\x7b\"bomFormat\":\"CycloneDX\"\x7d".toUTF8, safe⟩

def sampleRawCalls : List RawCall :=
  [sampleRawSbom "acme" (by decide +kernel),
    ⟨.evidence, "globex?eu", "[]".toUTF8, by decide +kernel⟩]

theorem snapshotSettings_ready : snapshotSettings.Ready := ⟨by decide, fun _ => rfl⟩

theorem bucketName_snapshots : BucketName snapshotSettings.bucket := by
  have hall : ∀ c ∈ snapshotSettings.bucket.toList, c.isAlphanum = true ∨ c ∈ ['.', '-', '_'] :=
    List.all_iff_forall_prop.1 (by decide +kernel)
  exact ⟨by decide, hall⟩

/-- A bill of materials and a finding come back, the finding of an organization that is not plain. -/
theorem rawBytesComeBack_sample :
    @RawBytesComeBack contentDigests plainHosts snapshotSettings sampleRawCalls := by
  have hhex : ∀ call ∈ sampleRawCalls,
      ∀ c ∈ (@RawCall.digest contentDigests call).toList, c ∈ "0123456789abcdef".toList := by
    have hall : ∀ call ∈ sampleRawCalls, ((@RawCall.digest contentDigests call).toList.all
        fun c => c ∈ "0123456789abcdef".toList) = true := by decide +kernel
    exact fun call hcall => List.all_iff_forall_prop.1 (hall call hcall)
  have htold : ∀ call ∈ sampleRawCalls, ∀ call' ∈ sampleRawCalls,
      @RawCall.digest contentDigests call = @RawCall.digest contentDigests call' →
        call.rawBytes = call'.rawBytes := by decide +kernel
  have hplain : ∀ call ∈ sampleRawCalls, call.kind = .sbom →
      ∀ c ∈ call.organizationId.toList, c ∉ Url.special := by
    have hall : ∀ call ∈ sampleRawCalls, call.kind = .sbom →
        (call.organizationId.toList.all fun c => c ∉ Url.special) = true := by decide +kernel
    exact fun call hcall hkind => List.all_iff_forall_prop.1 (hall call hcall hkind)
  exact (@rawBytesComeBack_iff contentDigests plainHosts snapshotSettings sampleRawCalls
    snapshotSettings_ready bucketName_snapshots (@Digested.mk contentDigests _ hhex htold)).2 hplain

/-- **A question mark in an organization's id** cuts the key: the object is not found again. -/
theorem query_key_cut : ¬ @RawBytesComeBack contentDigests plainHosts snapshotSettings
    [sampleRawSbom "acme?eu" (by decide +kernel)] := by
  rintro ⟨answers, objects, files, -, hcalls, hanswers⟩
  have hmem : sampleRawSbom "acme?eu" (by decide +kernel) ∈ answers.map Prod.fst := by
    rw [hcalls]
    exact List.mem_singleton.2 rfl
  obtain ⟨answer, hanswer, hcall⟩ := List.mem_map.1 hmem
  have hkind : answer.1.kind = .sbom := by rw [hcall]; rfl
  obtain ⟨key, hkey, -, hparse⟩ := (hanswers answer hanswer).1 hkind
  have horganization : answer.1.organizationId = "acme?eu" := by rw [hcall]; rfl
  rw [horganization] at hkey
  obtain ⟨-, rfl⟩ := sbomObjectKey_eq_ok.1 hkey
  have hplain := @parseObjectUri_key _ plainHosts _ _ hparse '?'
  simp only [String.toList_append, List.mem_append] at hplain
  exact hplain (Or.inl (Or.inl (Or.inl (Or.inr (by decide +kernel))))) (by decide)

end Sbom

end VulnOpsHub

import TrueNorth.AuditLog.Retention

/-
  What the archive holds, and what stays true of a site as
  it goes on: files and exports are never lost, and a row
  that was deleted does not come back.

  Key definitions include:
    * `Site.Later`
    * `Site.Sound`
    * `Exported`

  Main theorems:
    * `Site.idsOf_later`
    * `Site.exported_of_id`
    * `ExportJob.next_wrote`
    * `ExportJob.next_sound`
-/

--------
-- Later Sites
--------

namespace TrueNorth

namespace AuditLog

open Checks

variable {H : Type}

namespace Site

/- What one step of anyone leaves of a site. -/
structure Later (s s' : Site H) : Prop where
  archive : WriteOnce.Grows s.archive s'.archive
  exports : ∀ e ∈ s.exports, e ∈ s'.exports
  history : ∀ r ∈ s.history, r ∈ s'.history
  -- what is gone stays gone
  back : ∀ r ∈ s.history, r ∈ s'.logs → r ∈ s.logs
  -- a day's rows stay, or all of them go
  whole : ∀ day,
    (∀ r ∈ s.logs, r.day = day → r ∈ s'.logs) ∨
      (∀ r ∈ s.history, r.day = day → r ∉ s'.logs)

theorem Later.refl (s : Site H) : Later s s where
  archive := .refl _
  exports := fun _ hMem => hMem
  history := fun _ hMem => hMem
  back := fun _ _ hMem => hMem
  whole := fun _ => .inl (fun _ hMem _ => hMem)

theorem Later.trans
    {s₁ s₂ s₃ : Site H}
    (hFirst : Later s₁ s₂)
    (hSecond : Later s₂ s₃) :
    Later s₁ s₃ := by
  constructor
  case archive => exact hFirst.archive.trans hSecond.archive
  case exports =>
    exact fun e hMem => hSecond.exports e (hFirst.exports e hMem)
  case history =>
    exact fun r hMem => hSecond.history r (hFirst.history r hMem)
  case back =>
    intro r hMem hLogs
    exact hFirst.back r hMem
      (hSecond.back r (hFirst.history r hMem) hLogs)
  case whole =>
    intro day
    rcases hFirst.whole day with hStay | hGone
    · rcases hSecond.whole day with hStay' | hGone'
      · left
        exact fun r hMem hDay =>
          hStay' r (hStay r hMem hDay) hDay
      · right
        exact fun r hMem hDay =>
          hGone' r (hFirst.history r hMem) hDay
    · right
      intro r hMem hDay hLogs
      exact hGone r hMem hDay
        (hSecond.back r (hFirst.history r hMem) hLogs)

/- Rows of one day that were committed. -/
def Known
    (s : Site H)
    (day : Day)
    (rows : List AuditRow) : Prop :=
  ∀ r ∈ rows, r ∈ s.history ∧ r.day = day

/- What is so of every site that is reached. -/
structure Sound (s : Site H) : Prop where
  ids : (s.history.map AuditRow.id).Nodup
  logs : s.logs.Sublist s.history
  files : ∀ d q b, s.archive.get? (.file d q) = some b →
    ∃ rows, b = .rows rows ∧ s.Known d rows
  manifests : ∀ d q b,
    s.archive.get? (.manifest d q) = some b →
      ∃ m, b = .manifest m ∧ m.file = .file d q

theorem Later.known
    {s s' : Site H}
    (hLater : Later s s')
    {day : Day}
    {rows : List AuditRow}
    (hKnown : s.Known day rows) :
    s'.Known day rows := by
  intro r hMem
  rcases hKnown r hMem with ⟨hHistory, hDay⟩
  exact ⟨hLater.history r hHistory, hDay⟩

variable {s s' : Site H}

/- A row is known by its id. -/
theorem Sound.eq_of_id
    (hSound : s.Sound)
    {r r' : AuditRow}
    (hMem : r ∈ s.history)
    (hMem' : r' ∈ s.history)
    (hId : r.id = r'.id) :
    r = r' :=
  List.inj_on_of_nodup_map hSound.ids hMem hMem' hId

theorem Sound.nodup
    (hSound : s.Sound) :
    s.history.Nodup :=
  .of_map _ hSound.ids

theorem mem_ofDay
    {day : Day}
    {r : AuditRow} :
    r ∈ s.ofDay day ↔ r ∈ s.logs ∧ r.day = day := by
  unfold ofDay
  rw [List.mem_filter, decide_eq_true_eq]

theorem mem_dayRows
    {day : Day}
    {r : AuditRow} :
    r ∈ s.dayRows day ↔ r ∈ s.logs ∧ r.day = day := by
  unfold dayRows
  rw [List.mem_mergeSort, mem_ofDay]

theorem Sound.ofDay_nodup
    (hSound : s.Sound)
    (day : Day) :
    (s.ofDay day).Nodup :=
  (hSound.nodup.sublist hSound.logs).filter _

theorem Sound.ofDay_known
    (hSound : s.Sound)
    (day : Day) :
    s.Known day (s.ofDay day) := by
  intro r hMem
  rcases mem_ofDay.mp hMem with ⟨hLogs, hDay⟩
  exact ⟨hSound.logs.subset hLogs, hDay⟩

theorem Sound.dayRows_known
    (hSound : s.Sound)
    (day : Day) :
    s.Known day (s.dayRows day) := by
  intro r hMem
  rcases mem_dayRows.mp hMem with ⟨hLogs, hDay⟩
  exact ⟨hSound.logs.subset hLogs, hDay⟩

theorem mem_exportsFor
    {day : Day}
    {e : Export H} :
    e ∈ s.exportsFor day ↔ e ∈ s.exports ∧ e.day = day := by
  unfold exportsFor
  rw [List.mem_mergeSort, List.mem_filter, decide_eq_true_eq]

end Site

end AuditLog

end TrueNorth

--------
-- Checks That Pass Again
--------

namespace TrueNorth

namespace AuditLog

open Checks

variable {H : Type} [DecidableEq H]

namespace Archive

omit [DecidableEq H] in
theorem read_eq_ok
    {a : Archive H}
    {name : Name}
    {data : Blob H} :
    a.read name = .ok data ↔ a.get? name = some data := by
  unfold read
  cases hGet : a.get? name with
  | none =>
      constructor
      · intro h
        cases h
      · intro h
        cases h
  | some found =>
      constructor
      · intro h
        cases h
        rfl
      · intro h
        cases h
        rfl

omit [DecidableEq H] in
theorem read_grows
    {a a' : Archive H}
    (hGrows : WriteOnce.Grows a a')
    {name : Name}
    {data : Blob H}
    (hRead : a.read name = .ok data) :
    a'.read name = .ok data :=
  read_eq_ok.mpr (hGrows name data (read_eq_ok.mp hRead))

theorem put_eq_ok
    {a a' : Archive H}
    {name : Name}
    {data : Blob H} :
    a.put name data = .ok a' ↔
      WriteOnce.put a name data = some a' := by
  unfold put
  cases hPut : WriteOnce.put a name data with
  | none =>
      constructor
      · intro h
        cases h
      · intro h
        cases h
  | some found =>
      constructor
      · intro h
        cases h
        rfl
      · intro h
        cases h
        rfl

end Archive

/- What a verified manifest is. -/
structure Verified
    (sha : Blob H → H)
    (a : Archive H)
    (name : Name)
    (m : Manifest H) : Prop where
  manifest : a.get? name = some (.manifest m)
  sig : a.get? name.sig = some (.signature m.keyId m)
  file : ∃ data, a.get? m.file = some data ∧
    sha data = m.fileSha

omit [DecidableEq H] in
theorem parseManifest_ok
    {b : Blob H}
    {m : Manifest H}
    (hParse : parseManifest b = .ok m) :
    b = .manifest m := by
  cases b with
  | manifest m' =>
      cases hParse
      rfl
  | rows rows => cases hParse
  | signature keyId m' => cases hParse
  | pem keyId => cases hParse

theorem verifyManifest_ok
    {sha : Blob H → H}
    {a : Archive H}
    {name : Name}
    {key : Option Nat}
    {trusted : Option (List Nat)}
    {expected : Option H}
    {m : Manifest H}
    (hVerify :
      verifyManifest sha a name key trusted expected = .ok m) :
    Verified sha a name m ∧
      ∀ h, expected = some h → sha (.manifest m) = h := by
  unfold verifyManifest at hVerify
  rcases bind_eq_ok.mp hVerify with ⟨mbytes, hRead, hVerify⟩
  rcases bind_eq_ok.mp hVerify with ⟨sig, hSig, hVerify⟩
  rcases bind_eq_ok.mp hVerify with ⟨m', hParse, hVerify⟩
  rcases bind_eq_ok.mp hVerify with ⟨_, hHash, hVerify⟩
  rcases bind_eq_ok.mp hVerify with ⟨_, _, hVerify⟩
  rcases bind_eq_ok.mp hVerify with ⟨pem, _, hVerify⟩
  rcases bind_eq_ok.mp hVerify with ⟨_, _, hVerify⟩
  rcases bind_eq_ok.mp hVerify with ⟨_, hSigned, hVerify⟩
  rcases bind_eq_ok.mp hVerify with ⟨file, hFile, hVerify⟩
  rcases bind_eq_ok.mp hVerify with ⟨_, hSame, hVerify⟩
  cases hVerify
  have hBytes := parseManifest_ok hParse
  rw [refuseIf_eq_ok, decide_eq_false_iff_not, not_not]
    at hSigned hSame
  constructor
  · constructor
    case manifest =>
      rw [← hBytes]
      exact Archive.read_eq_ok.mp hRead
    case sig =>
      rw [← hSigned]
      exact Archive.read_eq_ok.mp hSig
    case file => exact ⟨file, Archive.read_eq_ok.mp hFile, hSame⟩
  · intro h hExpected
    rw [hExpected, refuseIf_eq_ok, Option.any_some,
      decide_eq_false_iff_not, not_not] at hHash
    rw [← hBytes]
    exact hHash

omit [DecidableEq H] in
theorem publicKey_grows
    {a a' : Archive H}
    (hGrows : WriteOnce.Grows a a')
    {key : Option Nat}
    {m : Manifest H}
    {pem : Blob H}
    (hKey : publicKey a key m = .ok pem) :
    publicKey a' key m = .ok pem := by
  unfold publicKey at hKey ⊢
  by_cases hOwn : key = some m.keyId
  · rw [if_pos hOwn] at hKey ⊢
    exact hKey
  · rw [if_neg hOwn] at hKey ⊢
    exact Archive.read_grows hGrows hKey

/- What verified once verifies with more in the archive. -/
theorem verifyManifest_grows
    {sha : Blob H → H}
    {a a' : Archive H}
    (hGrows : WriteOnce.Grows a a')
    {name : Name}
    {key : Option Nat}
    {ks ks' : List Nat}
    (hKeys : ∀ k ∈ ks, k ∈ ks')
    {expected : Option H}
    {m : Manifest H}
    (hVerify :
      verifyManifest sha a name key (some ks) expected =
        .ok m) :
    verifyManifest sha a' name key (some ks') expected =
      .ok m := by
  unfold verifyManifest at hVerify ⊢
  rcases bind_eq_ok.mp hVerify with ⟨mbytes, hRead, hVerify⟩
  rcases bind_eq_ok.mp hVerify with ⟨sig, hSig, hVerify⟩
  rcases bind_eq_ok.mp hVerify with ⟨m', hParse, hVerify⟩
  rcases bind_eq_ok.mp hVerify with ⟨_, hHash, hVerify⟩
  rcases bind_eq_ok.mp hVerify with ⟨_, hTrusted, hVerify⟩
  rcases bind_eq_ok.mp hVerify with ⟨pem, hPem, hVerify⟩
  rcases bind_eq_ok.mp hVerify with ⟨_, hOwn, hVerify⟩
  rcases bind_eq_ok.mp hVerify with ⟨_, hSigned, hVerify⟩
  rcases bind_eq_ok.mp hVerify with ⟨file, hFile, hVerify⟩
  have hTrusted' :
      refuseIf
        ((some ks').any (fun ks => !ks.contains m'.keyId))
        AuditError.unknownKey = .ok () := by
    rw [refuseIf_eq_ok] at hTrusted ⊢
    rw [Option.any_some, Bool.not_eq_false',
      List.contains_iff_mem] at hTrusted ⊢
    exact hKeys _ hTrusted
  refine bind_eq_ok.mpr
    ⟨mbytes, Archive.read_grows hGrows hRead, ?_⟩
  refine bind_eq_ok.mpr
    ⟨sig, Archive.read_grows hGrows hSig, ?_⟩
  refine bind_eq_ok.mpr ⟨m', hParse, ?_⟩
  refine bind_eq_ok.mpr ⟨_, hHash, ?_⟩
  refine bind_eq_ok.mpr ⟨_, hTrusted', ?_⟩
  refine bind_eq_ok.mpr
    ⟨pem, publicKey_grows hGrows hPem, ?_⟩
  refine bind_eq_ok.mpr ⟨_, hOwn, ?_⟩
  refine bind_eq_ok.mpr ⟨_, hSigned, ?_⟩
  exact bind_eq_ok.mpr
    ⟨file, Archive.read_grows hGrows hFile, hVerify⟩

namespace Site

variable {sha : Blob H → H}
variable {key : Nat}
variable {s s' : Site H}

theorem verifyExport_later
    (hLater : Later s s')
    {e : Export H}
    {m : Manifest H}
    (hVerify : s.verifyExport sha key e = .ok m) :
    s'.verifyExport sha key e = .ok m := by
  apply verifyManifest_grows hLater.archive _ hVerify
  intro k hMem
  unfold trustedKeyIds at hMem ⊢
  rcases List.mem_cons.mp hMem with rfl | hMem
  · exact List.mem_cons_self
  · rcases List.mem_map.mp hMem with ⟨e', hMem', rfl⟩
    exact List.mem_cons_of_mem _
      (List.mem_map_of_mem (hLater.exports e' hMem'))

theorem idsOf_later
    (hLater : Later s s')
    {e : Export H}
    {ids : List Nat}
    (hIds : s.idsOf sha key e = .ok ids) :
    s'.idsOf sha key e = .ok ids := by
  unfold idsOf at hIds ⊢
  rcases bind_eq_ok.mp hIds with ⟨m, hVerify, hIds⟩
  rcases bind_eq_ok.mp hIds with ⟨data, hRead, hIds⟩
  refine bind_eq_ok.mpr
    ⟨m, verifyExport_later hLater hVerify, ?_⟩
  exact bind_eq_ok.mpr
    ⟨data, Archive.read_grows hLater.archive hRead, hIds⟩

end Site

/-
  The row is in a file of its day: one whose manifest
  verifies, with the digest that a recorded export of the
  day has.
-/
def Exported
    (sha : Blob H → H)
    (key : Nat)
    (s : Site H)
    (r : AuditRow) : Prop :=
  ∃ e ∈ s.exports, e.day = r.day ∧
    ∃ m rows, s.verifyExport sha key e = .ok m ∧
      sha (.manifest m) = e.manifestSha ∧
      s.archive.get? m.file = some (.rows rows) ∧ r ∈ rows

theorem Exported.later
    {sha : Blob H → H}
    {key : Nat}
    {s s' : Site H}
    (hLater : s.Later s')
    {r : AuditRow}
    (hExported : Exported sha key s r) :
    Exported sha key s' r := by
  rcases hExported with
    ⟨e, hMem, hDay, m, rows, hVerify, hSha, hFile, hRow⟩
  exact ⟨e, hLater.exports e hMem, hDay, m, rows,
    Site.verifyExport_later hLater hVerify, hSha,
    hLater.archive _ _ hFile, hRow⟩

/- The id stands in a recorded and verified file of the day. -/
def Filed
    (sha : Blob H → H)
    (key : Nat)
    (s : Site H)
    (day : Day)
    (i : Nat) : Prop :=
  ∃ e ∈ s.exports, e.day = day ∧
    ∃ ids, s.idsOf sha key e = .ok ids ∧ i ∈ ids

theorem Filed.later
    {sha : Blob H → H}
    {key : Nat}
    {s s' : Site H}
    (hLater : s.Later s')
    {day : Day}
    {i : Nat}
    (hFiled : Filed sha key s day i) :
    Filed sha key s' day i := by
  rcases hFiled with ⟨e, hMem, hDay, ids, hIds, hId⟩
  exact ⟨e, hLater.exports e hMem, hDay, ids,
    Site.idsOf_later hLater hIds, hId⟩

namespace Site

variable {sha : Blob H → H}
variable {key : Nat}
variable {s : Site H}

omit [DecidableEq H] in
theorem decodeIds_ok
    {b : Blob H}
    {ids : List Nat}
    (hDecode : decodeIds b = .ok ids) :
    ∃ rows, b = .rows rows ∧ ids = rows.map AuditRow.id := by
  cases b with
  | rows rows =>
      cases hDecode
      exact ⟨rows, rfl, rfl⟩
  | manifest m => cases hDecode
  | signature keyId m => cases hDecode
  | pem keyId => cases hDecode

/- Every id read is filed. -/
theorem filed_of_exportedIds
    {day : Day}
    {ids : List Nat}
    (hIds : s.exportedIds sha key day = .ok ids) :
    ∀ i ∈ ids, Filed sha key s day i := by
  unfold exportedIds at hIds
  rcases bind_eq_ok.mp hIds with ⟨all, hAll, hIds⟩
  cases hIds
  intro i hMem
  rcases List.mem_flatten.mp hMem with ⟨is, hIn, hi⟩
  rcases (mapM_eq_ok hAll).2 is hIn with ⟨e, hMem', hOf⟩
  rcases mem_exportsFor.mp hMem' with ⟨hExport, hDay⟩
  exact ⟨e, hExport, hDay, is, hOf, hi⟩

/- A committed row whose id is filed is in the file itself. -/
theorem exported_of_id
    (hSound : s.Sound)
    {r : AuditRow}
    (hMem : r ∈ s.history)
    (hFiled : Filed sha key s r.day r.id) :
    Exported sha key s r := by
  rcases hFiled with ⟨e, hExport, hDay, ids, hIds, hId⟩
  unfold idsOf at hIds
  rcases bind_eq_ok.mp hIds with ⟨m, hVerify, hIds⟩
  rcases bind_eq_ok.mp hIds with ⟨data, hRead, hIds⟩
  rcases decodeIds_ok hIds with ⟨rows, rfl, rfl⟩
  rcases verifyManifest_ok hVerify with ⟨hVerified, hSha⟩
  rcases hSound.manifests _ _ _ hVerified.manifest with
    ⟨m', hBlob, hFile⟩
  cases hBlob
  have hData := Archive.read_eq_ok.mp hRead
  have hStored := hData
  rw [hFile] at hStored
  rcases hSound.files _ _ _ hStored with
    ⟨rows', hRows, hKnown⟩
  cases hRows
  rcases List.mem_map.mp hId with ⟨r', hMem', hSame⟩
  have hEq : r' = r :=
    hSound.eq_of_id (hKnown r' hMem').1 hMem hSame
  rw [hEq] at hMem'
  exact ⟨e, hExport, hDay, m, rows, hVerify, hSha _ rfl, hData,
    hMem'⟩

end Site

end AuditLog

end TrueNorth

--------
-- Rows That Are Committed
--------

namespace TrueNorth

namespace AuditLog

variable {H : Type}

namespace Site

variable {s s' : Site H}

/- An inserted row is new, or there is none. -/
theorem insert_cases
    (s : Site H)
    (r : AuditRow) :
    s.insert r = s ∨
      (r.id ∉ s.history.map AuditRow.id ∧
        s.insert r =
          { s with
            logs := s.logs ++ [r]
            history := s.history ++ [r] }) := by
  unfold insert
  by_cases hKnown :
      (s.history.map AuditRow.id).contains r.id = true
  · rw [if_pos hKnown]
    exact .inl rfl
  · rw [if_neg hKnown]
    rw [List.contains_iff_mem] at hKnown
    exact .inr ⟨hKnown, rfl⟩

theorem insert_archive
    (s : Site H)
    (r : AuditRow) :
    (s.insert r).archive = s.archive := by
  rcases insert_cases s r with hSame | ⟨_, hNew⟩
  · rw [hSame]
  · rw [hNew]

theorem insert_later
    (s : Site H)
    (r : AuditRow) :
    s.Later (s.insert r) := by
  rcases insert_cases s r with hSame | ⟨hFresh, hNew⟩
  · rw [hSame]
    exact .refl s
  · rw [hNew]
    constructor
    case archive => exact .refl _
    case exports => exact fun _ hMem => hMem
    case history => exact fun _ => List.mem_append_left _
    case back =>
      intro r' hMem hLogs
      rcases List.mem_append.mp hLogs with hLogs | hLast
      · exact hLogs
      · rw [List.mem_singleton] at hLast
        rw [hLast] at hMem
        exact absurd (List.mem_map_of_mem hMem) hFresh
    case whole =>
      intro day
      exact .inl (fun _ hMem _ => List.mem_append_left _ hMem)

theorem Sound.insert
    (hSound : s.Sound)
    (r : AuditRow) :
    (s.insert r).Sound := by
  rcases insert_cases s r with hSame | ⟨hFresh, hNew⟩
  · rw [hSame]
    exact hSound
  · have hLater := insert_later s r
    rw [hNew] at hLater ⊢
    constructor
    case ids =>
      rw [List.map_append, List.map_singleton,
        List.nodup_append]
      refine ⟨hSound.ids, List.nodup_singleton _, ?_⟩
      intro i hMem j hLast hEq
      rw [List.mem_singleton] at hLast
      rw [hEq, hLast] at hMem
      exact hFresh hMem
    case logs => exact hSound.logs.append (.refl _)
    case files =>
      intro d q b hGet
      rcases hSound.files d q b hGet with ⟨rows, hRows, hKnown⟩
      exact ⟨rows, hRows, hLater.known hKnown⟩
    case manifests => exact hSound.manifests

end Site

end AuditLog

end TrueNorth

--------
-- Steps of the Export
--------

namespace TrueNorth

namespace AuditLog

open Checks

variable {H : Type} [DecidableEq H]

/- The manifest a stage has in hand. -/
def Stage.manifest : Stage H → Option (Manifest H)
| .putManifest m => some m
| .putSig m => some m
| .verify m => some m
| .record m => some m
| _ => none

namespace ExportJob

variable {sha : Blob H → H}
variable {key : Nat}
variable {s s' : Site H}

omit [DecidableEq H] in
/- It writes committed rows of the day its files are of. -/
def Sound (s : Site H) : ExportJob H → Prop
| .head _ day _ rows => s.Known day rows
| .write w stage =>
    s.Known w.day w.rows ∧
      ∀ m, stage.manifest = some m → m.file = w.fileName
| _ => True

omit [DecidableEq H] in
theorem Sound.later
    {job : ExportJob H}
    (hJob : job.Sound s)
    (hLater : s.Later s') :
    job.Sound s' := by
  cases job with
  | head today day seq rows => exact hLater.known hJob
  | write w stage => exact ⟨hLater.known hJob.1, hJob.2⟩
  | start today => trivial
  | days today day => trivial
  | recount today => trivial
  | count today exports => trivial
  | collect today seq => trivial
  | late today seq ids => trivial
  | done today => trivial
  | raised e => trivial

theorem putting_cases
    (s : Site H)
    (name : Name)
    (data : Blob H)
    (next : ExportJob H) :
    (∃ e, putting s name data next = (s, .raised e)) ∨
      ∃ archive,
        WriteOnce.put s.archive name data = some archive ∧
        putting s name data next =
          ({ s with archive := archive }, next) := by
  unfold putting
  cases hPut : s.archive.put name data with
  | error e => exact .inl ⟨e, rfl⟩
  | ok archive =>
      exact .inr ⟨archive, Archive.put_eq_ok.mp hPut, rfl⟩

omit [DecidableEq H] in
theorem reading_cases
    {A : Type}
    (s : Site H)
    (x : Except AuditError A)
    (next : A → ExportJob H) :
    (∃ e, x = .error e ∧ reading s x next = (s, .raised e)) ∨
      ∃ a, x = .ok a ∧ reading s x next = (s, next a) := by
  cases x with
  | error e => exact .inl ⟨e, rfl, rfl⟩
  | ok a => exact .inr ⟨a, rfl, rfl⟩

/- What one step of a run writes. -/
inductive Wrote
    (key : Nat)
    (s : Site H)
    (job : ExportJob H) : Site H → Prop
| nothing : Wrote key s job s
| put
    {name : Name}
    {data : Blob H}
    {archive : Archive H}
    (hPut : WriteOnce.put s.archive name data = some archive)
    (hWhat :
      (name = .key key ∧ data = .pem key) ∨
      (∃ w, job = .write w .putFile ∧ name = w.fileName ∧
        data = .rows w.rows) ∨
      (∃ w m, job = .write w (.putManifest m) ∧
        name = w.manifestName ∧ data = .manifest m) ∨
      ∃ w m, job = .write w (.putSig m) ∧
        name = w.manifestName.sig ∧ data = .signature key m) :
    Wrote key s job { s with archive := archive }
| recorded
    {e : Export H} :
    Wrote key s job { s with exports := s.exports ++ [e] }

theorem writeNext_wrote
    (now : Int)
    (s : Site H)
    (w : Writing H)
    (stage : Stage H) :
    Wrote key s (.write w stage)
      (writeNext sha key now s w stage).1 := by
  cases stage with
  | putKey =>
      simp only [writeNext]
      rcases putting_cases s (.key key) (.pem key)
          (.write w .look) with
        ⟨e, hEq⟩ | ⟨archive, hPut, hEq⟩
      · rw [hEq]
        exact .nothing
      · rw [hEq]
        exact .put hPut (.inl ⟨rfl, rfl⟩)
  | look =>
      simp only [writeNext]
      by_cases hThere : s.archive.stores w.manifestName = true
      · rw [if_pos hThere]
        rcases reading_cases s (w.adopt sha key s)
            (fun m => .write w (.record m)) with
          ⟨e, _, hEq⟩ | ⟨m, _, hEq⟩
        · rw [hEq]
          exact .nothing
        · rw [hEq]
          exact .nothing
      · rw [if_neg hThere]
        exact .nothing
  | putFile =>
      simp only [writeNext]
      rcases putting_cases s w.fileName (.rows w.rows)
          (.write w (.putManifest
            (w.newManifest sha key now))) with
        ⟨e, hEq⟩ | ⟨archive, hPut, hEq⟩
      · rw [hEq]
        exact .nothing
      · rw [hEq]
        exact .put hPut (.inr (.inl ⟨w, rfl, rfl, rfl⟩))
  | putManifest m =>
      simp only [writeNext]
      rcases putting_cases s w.manifestName (.manifest m)
          (.write w (.putSig m)) with
        ⟨e, hEq⟩ | ⟨archive, hPut, hEq⟩
      · rw [hEq]
        exact .nothing
      · rw [hEq]
        exact .put hPut
          (.inr (.inr (.inl ⟨w, m, rfl, rfl, rfl⟩)))
  | putSig m =>
      simp only [writeNext]
      rcases putting_cases s w.manifestName.sig
          (.signature key m) (.write w (.verify m)) with
        ⟨e, hEq⟩ | ⟨archive, hPut, hEq⟩
      · rw [hEq]
        exact .nothing
      · rw [hEq]
        exact .put hPut
          (.inr (.inr (.inr ⟨w, m, rfl, rfl, rfl⟩)))
  | verify m =>
      simp only [writeNext]
      rcases reading_cases s
          (verifyManifest sha s.archive w.manifestName
            (some key) (some [key]) none)
          (fun _ => .write w (.record m)) with
        ⟨e, _, hEq⟩ | ⟨m', _, hEq⟩
      · rw [hEq]
        exact .nothing
      · rw [hEq]
        exact .nothing
  | record m =>
      simp only [writeNext]
      by_cases hThere :
          s.exports.any (fun e =>
            e.day = w.day && e.seq = w.seq) = true
      · rw [if_pos hThere]
        exact .nothing
      · rw [if_neg hThere]
        exact .recorded

theorem next_wrote
    (now : Int)
    (s : Site H)
    (job : ExportJob H) :
    Wrote key s job (job.next sha key now s).1 := by
  cases job with
  | write w stage => exact writeNext_wrote now s w stage
  | start today =>
      simp only [ExportJob.next]
      cases s.lastExportDay with
      | some last => exact .nothing
      | none =>
          cases s.firstRowDay with
          | some day => exact .nothing
          | none => exact .nothing
  | days today day =>
      simp only [ExportJob.next]
      by_cases hLt : day < today
      · rw [if_pos hLt]
        exact .nothing
      · rw [if_neg hLt]
        exact .nothing
  | head today day seq rows =>
      simp only [ExportJob.next]
      rcases reading_cases s s.chainHead
          (fun prev =>
            .write ⟨today, day, seq, rows, prev⟩ .putKey) with
        ⟨e, _, hEq⟩ | ⟨prev, _, hEq⟩
      · rw [hEq]
        exact .nothing
      · rw [hEq]
        exact .nothing
  | recount today =>
      simp only [ExportJob.next]
      by_cases hNone : (s.exportsFor (today - 2)).isEmpty = true
      · simp only [if_pos hNone]
        exact .nothing
      · simp only [if_neg hNone]
        exact .nothing
  | count today exports =>
      simp only [ExportJob.next]
      by_cases hAll :
          s.dayCount (today - 2) ≤
            (exports.map Export.rowCount).sum
      · simp only [if_pos hAll]
        exact .nothing
      · simp only [if_neg hAll]
        exact .nothing
  | collect today seq =>
      simp only [ExportJob.next]
      rcases reading_cases s (s.exportedIds sha key (today - 2))
          (fun ids => .late today seq ids) with
        ⟨e, _, hEq⟩ | ⟨ids, _, hEq⟩
      · rw [hEq]
        exact .nothing
      · rw [hEq]
        exact .nothing
  | late today seq ids => exact .nothing
  | done today => exact .nothing
  | raised e => exact .nothing

theorem Wrote.later
    {job : ExportJob H}
    (hWrote : Wrote key s job s') :
    s.Later s' := by
  cases hWrote with
  | nothing => exact .refl s
  | put hPut hWhat =>
      exact
        { Site.Later.refl s with
          archive := WriteOnce.put_grows hPut }
  | recorded =>
      exact
        { Site.Later.refl s with
          exports := fun _ => List.mem_append_left _ }

theorem Wrote.sound
    {job : ExportJob H}
    (hWrote : Wrote key s job s')
    (hSound : s.Sound)
    (hJob : job.Sound s) :
    s'.Sound := by
  cases hWrote with
  | nothing => exact hSound
  | recorded =>
      exact ⟨hSound.ids, hSound.logs, hSound.files,
        hSound.manifests⟩
  | @put name data archive hPut hWhat =>
      refine ⟨hSound.ids, hSound.logs, ?_, ?_⟩
      · intro d q b hGet
        rw [WriteOnce.put_get? hPut] at hGet
        by_cases hName : Name.file d q = name
        · rw [if_pos hName] at hGet
          cases hGet
          rcases hWhat with ⟨hKey, _⟩ |
            ⟨w, rfl, hFile, rfl⟩ | ⟨w, m, _, hManifest, _⟩ |
            ⟨w, m, _, hSig, _⟩
          · rw [hKey] at hName
            cases hName
          · rw [hFile] at hName
            cases hName
            exact ⟨w.rows, rfl, hJob.1⟩
          · rw [hManifest] at hName
            cases hName
          · rw [hSig] at hName
            cases hName
        · rw [if_neg hName] at hGet
          exact hSound.files d q b hGet
      · intro d q b hGet
        rw [WriteOnce.put_get? hPut] at hGet
        by_cases hName : Name.manifest d q = name
        · rw [if_pos hName] at hGet
          cases hGet
          rcases hWhat with ⟨hKey, _⟩ |
            ⟨w, _, hFile, _⟩ | ⟨w, m, rfl, hManifest, rfl⟩ |
            ⟨w, m, _, hSig, _⟩
          · rw [hKey] at hName
            cases hName
          · rw [hFile] at hName
            cases hName
          · rw [hManifest] at hName
            cases hName
            exact ⟨m, rfl, hJob.2 m rfl⟩
          · rw [hSig] at hName
            cases hName
        · rw [if_neg hName] at hGet
          exact hSound.manifests d q b hGet

theorem Wrote.purges
    {job : ExportJob H}
    (hWrote : Wrote key s job s') :
    s'.purges = s.purges := by
  cases hWrote with
  | nothing => rfl
  | put hPut hWhat => rfl
  | recorded => rfl

theorem Wrote.rows
    {job : ExportJob H}
    (hWrote : Wrote key s job s') :
    s'.logs = s.logs ∧ s'.history = s.history := by
  cases hWrote with
  | nothing => exact ⟨rfl, rfl⟩
  | put hPut hWhat => exact ⟨rfl, rfl⟩
  | recorded => exact ⟨rfl, rfl⟩

/- The job that is left writes what is of its day too. -/
theorem writeNext_sound
    (now : Int)
    (hSound : s.Sound)
    {w : Writing H}
    {stage : Stage H}
    (hJob : (ExportJob.write w stage).Sound s) :
    (writeNext sha key now s w stage).2.Sound s := by
  cases stage with
  | putKey =>
      simp only [writeNext]
      rcases putting_cases s (.key key) (.pem key)
          (.write w .look) with
        ⟨e, hEq⟩ | ⟨archive, _, hEq⟩
      · rw [hEq]
        trivial
      · rw [hEq]
        refine ⟨hJob.1, ?_⟩
        intro m hNone
        cases hNone
  | look =>
      simp only [writeNext]
      by_cases hThere : s.archive.stores w.manifestName = true
      · rw [if_pos hThere]
        rcases reading_cases s (w.adopt sha key s)
            (fun m => .write w (.record m)) with
          ⟨e, _, hEq⟩ | ⟨m, hAdopt, hEq⟩
        · rw [hEq]
          trivial
        · rw [hEq]
          refine ⟨hJob.1, ?_⟩
          intro m' hSome
          cases hSome
          unfold Writing.adopt at hAdopt
          rcases bind_eq_ok.mp hAdopt with
            ⟨m', hVerify, hAdopt⟩
          rcases bind_eq_ok.mp hAdopt with ⟨_, _, hAdopt⟩
          cases hAdopt
          rcases hSound.manifests _ _ _
              (verifyManifest_ok hVerify).1.manifest with
            ⟨m'', hBlob, hFile⟩
          cases hBlob
          exact hFile
      · rw [if_neg hThere]
        refine ⟨hJob.1, ?_⟩
        intro m hNone
        cases hNone
  | putFile =>
      simp only [writeNext]
      rcases putting_cases s w.fileName (.rows w.rows)
          (.write w (.putManifest
            (w.newManifest sha key now))) with
        ⟨e, hEq⟩ | ⟨archive, _, hEq⟩
      · rw [hEq]
        trivial
      · rw [hEq]
        refine ⟨hJob.1, ?_⟩
        intro m hSome
        cases hSome
        rfl
  | putManifest m =>
      simp only [writeNext]
      rcases putting_cases s w.manifestName (.manifest m)
          (.write w (.putSig m)) with
        ⟨e, hEq⟩ | ⟨archive, _, hEq⟩
      · rw [hEq]
        trivial
      · rw [hEq]
        exact hJob
  | putSig m =>
      simp only [writeNext]
      rcases putting_cases s w.manifestName.sig
          (.signature key m) (.write w (.verify m)) with
        ⟨e, hEq⟩ | ⟨archive, _, hEq⟩
      · rw [hEq]
        trivial
      · rw [hEq]
        exact hJob
  | verify m =>
      simp only [writeNext]
      rcases reading_cases s
          (verifyManifest sha s.archive w.manifestName
            (some key) (some [key]) none)
          (fun _ => .write w (.record m)) with
        ⟨e, _, hEq⟩ | ⟨m', _, hEq⟩
      · rw [hEq]
        trivial
      · rw [hEq]
        exact hJob
  | record m =>
      simp only [writeNext]
      by_cases hThere :
          s.exports.any (fun e =>
            e.day = w.day && e.seq = w.seq) = true
      · rw [if_pos hThere]
        trivial
      · rw [if_neg hThere]
        unfold Writing.after
        by_cases hFirst : w.seq = 0
        · simp only [if_pos hFirst]
          trivial
        · simp only [if_neg hFirst]
          trivial

theorem next_sound
    (now : Int)
    (hSound : s.Sound)
    {job : ExportJob H}
    (hJob : job.Sound s) :
    (job.next sha key now s).2.Sound s := by
  cases job with
  | write w stage => exact writeNext_sound now hSound hJob
  | start today =>
      simp only [ExportJob.next]
      cases s.lastExportDay with
      | some last => trivial
      | none =>
          cases s.firstRowDay with
          | some day => trivial
          | none => trivial
  | days today day =>
      simp only [ExportJob.next]
      by_cases hLt : day < today
      · rw [if_pos hLt]
        exact hSound.dayRows_known day
      · rw [if_neg hLt]
        trivial
  | head today day seq rows =>
      simp only [ExportJob.next]
      rcases reading_cases s s.chainHead
          (fun prev =>
            .write ⟨today, day, seq, rows, prev⟩ .putKey) with
        ⟨e, _, hEq⟩ | ⟨prev, _, hEq⟩
      · rw [hEq]
        trivial
      · rw [hEq]
        refine ⟨hJob, ?_⟩
        intro m hNone
        cases hNone
  | recount today =>
      simp only [ExportJob.next]
      by_cases hNone : (s.exportsFor (today - 2)).isEmpty = true
      · simp only [if_pos hNone]
        trivial
      · simp only [if_neg hNone]
        trivial
  | count today exports =>
      simp only [ExportJob.next]
      by_cases hAll :
          s.dayCount (today - 2) ≤
            (exports.map Export.rowCount).sum
      · simp only [if_pos hAll]
        trivial
      · simp only [if_neg hAll]
        trivial
  | collect today seq =>
      simp only [ExportJob.next]
      rcases reading_cases s (s.exportedIds sha key (today - 2))
          (fun ids => .late today seq ids) with
        ⟨e, _, hEq⟩ | ⟨ids, _, hEq⟩
      · rw [hEq]
        trivial
      · rw [hEq]
        trivial
  | late today seq ids =>
      intro r hMem
      exact hSound.dayRows_known (today - 2) r
        (List.mem_of_mem_filter hMem)
  | done today => trivial
  | raised e => trivial

end ExportJob

end AuditLog

end TrueNorth

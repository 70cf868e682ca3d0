import TrueNorth.AuditLog.Phases

/-
  One export written: no put is refused, what an interrupted
  run left is adopted, and what is recorded is all there.

  Main theorems:
    * `Shelved.put`
    * `Shelved.record`
    * `Daily.writeNext_goes`
-/

--------
-- Puts
--------

namespace TrueNorth

namespace AuditLog

open Checks

variable {H : Type} [DecidableEq H]

namespace Shelved

variable {sha : Blob H → H}
variable {key : Nat}
variable {s : Site H}
variable {a : Archive H}

omit [DecidableEq H] in
/- The rows that are filed are in files that stay. -/
theorem filed_grows
    (hShelved : Shelved sha key s)
    (hGrows : WriteOnce.Grows s.archive a)
    (day : Day) :
    Site.filed { s with archive := a } day = s.filed day := by
  have hExports :
      Site.exports { s with archive := a } = s.exports := rfl
  apply Site.filed_congr hExports
  intro e hMem
  rcases hShelved.records e hMem with
    ⟨m, rows, hFiling, hRecords⟩
  rw [Site.rowsOf_of_filing hFiling.file hRecords]
  exact Site.rowsOf_of_filing (hFiling.grows hGrows).file
    hRecords

/- What is put has what it belongs to before it. -/
theorem put
    (hShelved : Shelved sha key s)
    {name : Name}
    {data : Blob H}
    (hPut : WriteOnce.put s.archive name data = some a)
    (hPem : name = .key key → data = .pem key)
    (hManifest : ∀ d q, name = .manifest d q →
      ∃ m rows, data = .manifest m ∧ m.file = .file d q ∧
        m.keyId = key ∧
          s.archive.get? (.file d q) = some (.rows rows) ∧
            m.fileSha = sha (.rows rows))
    (hSig : ∀ d q, name = .sig (.manifest d q) →
      ∃ m, s.archive.get? (.manifest d q) = some (.manifest m) ∧
        data = .signature key m) :
    Shelved sha key { s with archive := a } := by
  have hGrows := WriteOnce.put_grows hPut
  constructor
  case pem =>
    intro b hGet
    rw [WriteOnce.put_get? hPut] at hGet
    by_cases hName : Name.key key = name
    · rw [if_pos hName] at hGet
      cases hGet
      exact hPem hName.symm
    · rw [if_neg hName] at hGet
      exact hShelved.pem b hGet
  case manifest =>
    intro d q m hGet
    rw [WriteOnce.put_get? hPut] at hGet
    by_cases hName : Name.manifest d q = name
    · rw [if_pos hName] at hGet
      rcases hManifest d q hName.symm with
        ⟨m', rows, hData, hFile, hKey, hRows, hSha⟩
      rw [hData] at hGet
      cases hGet
      exact ⟨hFile, hKey, rows, hGrows _ _ hRows, hSha⟩
    · rw [if_neg hName] at hGet
      rcases hShelved.manifest d q m hGet with
        ⟨hFile, hKey, rows, hRows, hSha⟩
      exact ⟨hFile, hKey, rows, hGrows _ _ hRows, hSha⟩
  case sig =>
    intro d q b hGet
    rw [WriteOnce.put_get? hPut] at hGet
    by_cases hName : Name.sig (.manifest d q) = name
    · rw [if_pos hName] at hGet
      cases hGet
      rcases hSig d q hName.symm with ⟨m, hStored, hData⟩
      exact ⟨m, hGrows _ _ hStored, hData⟩
    · rw [if_neg hName] at hGet
      rcases hShelved.sig d q b hGet with ⟨m, hStored, hData⟩
      exact ⟨m, hGrows _ _ hStored, hData⟩
  case records =>
    intro e hMem
    rcases hShelved.records e hMem with
      ⟨m, rows, hFiling, hRecords⟩
    exact ⟨m, rows, hFiling.grows hGrows, hRecords⟩
  case nodup =>
    intro d
    rw [hShelved.filed_grows hGrows]
    exact hShelved.nodup d
  case chained => exact hShelved.chained

end Shelved

end AuditLog

end TrueNorth

--------
-- The Record
--------

namespace TrueNorth

namespace AuditLog

open Checks

variable {H : Type}

namespace Site

variable {s : Site H}

theorem filed_append
    (e : Export H)
    (day : Day) :
    filed { s with exports := s.exports ++ [e] } day =
      s.filed day ++
        if e.day = day then s.rowsOf e else [] := by
  unfold filed
  rw [List.filter_append, List.flatMap_append]
  congr 1
  by_cases hDay : e.day = day
  · rw [if_pos hDay, List.filter_cons,
      if_pos (decide_eq_true hDay), List.filter_nil,
      List.flatMap_singleton]
    rfl
  · rw [if_neg hDay, List.filter_cons,
      if_neg (by rw [decide_eq_true_eq]; exact hDay),
      List.filter_nil]
    rfl

end Site

variable [DecidableEq H]

namespace Shelved

variable {sha : Blob H → H}
variable {key : Nat}
variable {s : Site H}

omit [DecidableEq H] in
/- A manifest is told from all others by its digest. -/
theorem fresh
    (hIdeal : Function.Injective sha)
    (hShelved : Shelved sha key s)
    {day : Day}
    {seq : Nat}
    {m : Manifest H}
    {rows : List AuditRow}
    (hFiling : Filing sha key s.archive day seq m rows)
    (hFree : ∀ e ∈ s.exports, e.day = day → e.seq ≠ seq) :
    ∀ e ∈ s.exports, e.manifestSha ≠ sha (.manifest m) := by
  intro e hMem hSame
  rcases hShelved.records e hMem with
    ⟨m', rows', hFiling', hRecords⟩
  rw [hRecords.manifestSha] at hSame
  have hEq := hIdeal hSame
  cases hEq
  have hName := hFiling'.name.symm.trans hFiling.name
  cases hName
  exact hFree e hMem rfl rfl

theorem record
    (hIdeal : Function.Injective sha)
    (hShelved : Shelved sha key s)
    {w : Writing H}
    {m : Manifest H}
    (now : Int)
    (hFiling :
      Filing sha key s.archive w.day w.seq m w.rows)
    (hHead : s.chainHead = .ok w.prev)
    (hFree : ∀ e ∈ s.exports, e.day = w.day → e.seq ≠ w.seq)
    (hNodup : w.rows.Nodup)
    (hApart : ∀ r ∈ w.rows, r ∉ s.filed w.day) :
    Shelved sha key
      { s with
        exports := s.exports ++ [w.export' sha key now m] } := by
  have hRecords :
      Records sha (w.export' sha key now m) m w.rows :=
    ⟨rfl, rfl, rfl⟩
  constructor
  case pem => exact hShelved.pem
  case manifest => exact hShelved.manifest
  case sig => exact hShelved.sig
  case records =>
    intro e hMem
    rcases List.mem_append.mp hMem with hOld | hNew
    · exact hShelved.records e hOld
    · rw [List.mem_singleton] at hNew
      rw [hNew]
      exact ⟨m, w.rows, hFiling, hRecords⟩
  case nodup =>
    intro d
    rw [Site.filed_append,
      Site.rowsOf_of_filing hFiling.file hRecords]
    by_cases hDay : (w.export' sha key now m).day = d
    · rw [if_pos hDay, List.nodup_append]
      refine ⟨hShelved.nodup d, hNodup, ?_⟩
      intro r hFiled r' hRow hSame
      rw [hSame, ← hDay] at hFiled
      exact hApart r' hRow hFiled
    · rw [if_neg hDay, List.append_nil]
      exact hShelved.nodup d
  case chained =>
    exact hShelved.chained.append hHead rfl
      (hShelved.fresh hIdeal hFiling hFree)

end Shelved

end AuditLog

end TrueNorth

--------
-- The Stages of a Write
--------

namespace TrueNorth

namespace AuditLog

open Checks

variable {H : Type} [DecidableEq H]

namespace ExportJob

/- A put goes through where the name is free, or has that. -/
theorem putting_of_free
    {s : Site H}
    {name : Name}
    {data : Blob H}
    (hFree : ∀ b, s.archive.get? name = some b → b = data)
    (next : ExportJob H) :
    ∃ a, WriteOnce.put s.archive name data = some a ∧
      putting s name data next =
        ({ s with archive := a }, next) := by
  rcases WriteOnce.put_isSome hFree with ⟨a, hPut⟩
  refine ⟨a, hPut, ?_⟩
  unfold putting
  rw [Archive.put_eq_ok.mpr hPut]

end ExportJob

namespace Daily

open ExportJob

variable {sha : Blob H → H}
variable {key : Nat}
variable {s : Daily H}

/- The state after a step of its run, the run aside. -/
def withSite
    (s : Daily H)
    (site : Site H) : Daily H :=
  { s with site := site }

omit [DecidableEq H] in
/- Puts leave what may be recorded as it is. -/
theorem Writable.put
    (hShelved : Shelved sha key s.site)
    {a : Archive H}
    (hGrows : WriteOnce.Grows s.site.archive a)
    {today day : Day}
    {seq : Nat}
    {rows : List AuditRow}
    (hWritable : s.Writable today day seq rows) :
    (s.withSite { s.site with archive := a }).Writable today day
      seq rows := by
  constructor
  case begun => exact hWritable.begun
  case before => exact hWritable.before
  case nodup => exact hWritable.nodup
  case apart =>
    intro r hRow hFiled
    apply hWritable.apart r hRow
    rw [← hShelved.filed_grows hGrows]
    exact hFiled
  case first => exact hWritable.first
  case again =>
    intro hSeq
    rcases hWritable.again hSeq with ⟨hDay, hNext, hCaught⟩
    exact ⟨hDay, ⟨hNext.recorded, hNext.some, hNext.last⟩,
      hCaught⟩

omit [DecidableEq H] in
/- No export has the name the rows are to have. -/
theorem Writable.free
    {today day : Day}
    {seq : Nat}
    {rows : List AuditRow}
    (hWritable : s.Writable today day seq rows) :
    ∀ e ∈ s.site.exports, e.day = day → e.seq ≠ seq := by
  intro e hMem hDay hSeq
  by_cases hFirst : seq = 0
  · exact absurd hDay (ne_of_lt (hWritable.first hFirst e hMem))
  · exact absurd hSeq
      (ne_of_lt ((hWritable.again hFirst).2.1.last e hMem hDay))

/- What a step of a run comes to. -/
def Goes
    (sha : Blob H → H)
    (key : Nat)
    (s : Daily H)
    (next : Site H × ExportJob H) : Prop :=
  Shelved sha key next.1 ∧
    (s.withSite next.1).Phase sha key next.2

/- A step that only puts a file. -/
theorem goes_put
    (hShelved : Shelved sha key s.site)
    {w : Writing H}
    (hWritable : s.Writable w.today w.day w.seq w.rows)
    (hHead : s.site.chainHead = .ok w.prev)
    {name : Name}
    {data : Blob H}
    (hFree : ∀ b, s.site.archive.get? name = some b → b = data)
    (hPem : name = .key key → data = .pem key)
    (hManifest : ∀ d q, name = .manifest d q →
      ∃ m rows, data = .manifest m ∧ m.file = .file d q ∧
        m.keyId = key ∧
          s.site.archive.get? (.file d q) = some (.rows rows) ∧
            m.fileSha = sha (.rows rows))
    (hSig : ∀ d q, name = .sig (.manifest d q) →
      ∃ m, s.site.archive.get? (.manifest d q) =
          some (.manifest m) ∧
        data = .signature key m)
    {stage : Stage H}
    (hReady : ∀ a,
      WriteOnce.put s.site.archive name data = some a →
        StageReady sha key a w stage) :
    Goes sha key s
      (putting s.site name data (.write w stage)) := by
  rcases putting_of_free hFree (.write w stage) with
    ⟨a, hPut, hEq⟩
  rw [hEq]
  refine ⟨hShelved.put hPut hPem hManifest hSig, ?_, ?_,
    hReady a hPut⟩
  · exact hWritable.put hShelved (WriteOnce.put_grows hPut)
  · exact hHead

/- What was found is adopted. -/
theorem adopts
    (hIdeal : Function.Injective sha)
    (hShelved : Shelved sha key s.site)
    {w : Writing H}
    {m : Manifest H}
    (hStored :
      s.site.archive.get? w.manifestName = some (.manifest m))
    (hLeft : Adoptable sha s.site w = true) :
    w.adopt sha key s.site = .ok m ∧
      Filing sha key s.site.archive w.day w.seq m w.rows := by
  simp only [Adoptable, hStored, Bool.and_eq_true] at hLeft
  rcases hLeft with ⟨hSig, hDescribes⟩
  have hFiling :
      Filing sha key s.site.archive w.day w.seq m w.rows := by
    rcases hShelved.manifest _ _ _ hStored with
      ⟨hName, hKey, rows, hFile, hSha⟩
    have hRows : m.fileSha = sha (.rows w.rows) := by
      unfold Writing.describes at hDescribes
      rw [Bool.and_eq_true, Bool.and_eq_true] at hDescribes
      exact decide_eq_true_eq.mp hDescribes.1.1
    have hSame := hIdeal (hSha.symm.trans hRows)
    cases hSame
    constructor
    case file => exact hFile
    case manifest => exact hStored
    case sig =>
      rcases Option.isSome_iff_exists.mp hSig with ⟨b, hGet⟩
      rcases hShelved.sig _ _ _ hGet with
        ⟨m', hStored', hData⟩
      have hEq := hStored.symm.trans hStored'
      cases hEq
      rw [← hData]
      exact hGet
    case fileSha => exact hSha
    case name => exact hName
    case keyId => exact hKey
  refine ⟨?_, hFiling⟩
  unfold Writing.adopt
  refine bind_eq_ok.mpr ⟨m, ?_, ?_⟩
  · apply hFiling.verifies
    · exact List.mem_cons_self
    · intro h hNone
      cases hNone
  · refine bind_eq_ok.mpr ⟨(), ?_, rfl⟩
    rw [refuseIf_eq_ok, hDescribes]
    rfl

omit [DecidableEq H] in
theorem newManifest_describes
    (now : Int)
    (w : Writing H) :
    Describes sha key w (w.newManifest sha key now) :=
  ⟨rfl, rfl, rfl⟩

/- A run that looks finds nothing, or adopts what it finds. -/
theorem look_goes
    (hIdeal : Function.Injective sha)
    (hShelved : Shelved sha key s.site)
    (now : Int)
    {w : Writing H}
    (hWritable : s.Writable w.today w.day w.seq w.rows)
    (hHead : s.site.chainHead = .ok w.prev)
    (hLeft : Adoptable sha s.site w = true) :
    Goes sha key s (writeNext sha key now s.site w .look) := by
  simp only [writeNext]
  cases hGet : s.site.archive.get? w.manifestName with
  | none =>
      have hNone :
          s.site.archive.stores w.manifestName = false := by
        unfold Archive.stores
        rw [hGet]
        rfl
      rw [if_neg (by rw [hNone]; exact Bool.false_ne_true)]
      refine ⟨hShelved, hWritable, hHead, hGet, ?_⟩
      intro b hFile
      simp only [Adoptable, hGet] at hLeft
      have hFile' :
          s.site.archive.get? w.fileName = some b := hFile
      rw [hFile', Option.all_some] at hLeft
      exact decide_eq_true_eq.mp hLeft
  | some b =>
      have hThere :
          s.site.archive.stores w.manifestName = true := by
        unfold Archive.stores
        rw [hGet]
        rfl
      rw [if_pos hThere]
      cases b with
      | manifest m =>
          rcases adopts hIdeal hShelved hGet hLeft with
            ⟨hAdopt, hFiling⟩
          rw [hAdopt]
          exact ⟨hShelved, hWritable, hHead, hFiling⟩
      | rows rows =>
          simp only [Adoptable, hGet] at hLeft
          cases hLeft
      | signature k m =>
          simp only [Adoptable, hGet] at hLeft
          cases hLeft
      | pem k =>
          simp only [Adoptable, hGet] at hLeft
          cases hLeft

/- The export is recorded, and the run goes on. -/
theorem record_goes
    (hIdeal : Function.Injective sha)
    (hShelved : Shelved sha key s.site)
    (now : Int)
    {w : Writing H}
    {m : Manifest H}
    (hWritable : s.Writable w.today w.day w.seq w.rows)
    (hHead : s.site.chainHead = .ok w.prev)
    (hFiling :
      Filing sha key s.site.archive w.day w.seq m w.rows) :
    Goes sha key s
      (writeNext sha key now s.site w (.record m)) ∧
      writeNext sha key now s.site w (.record m) =
        ({ s.site with
            exports :=
              s.site.exports ++ [w.export' sha key now m] },
          w.after) := by
  have hNot :
      s.site.exports.any (fun e =>
        e.day = w.day && e.seq = w.seq) = false := by
    rw [List.any_eq_false]
    intro e hMem hBoth
    rw [Bool.and_eq_true, decide_eq_true_eq,
      decide_eq_true_eq] at hBoth
    exact hWritable.free e hMem hBoth.1 hBoth.2
  have hEq :
      writeNext sha key now s.site w (.record m) =
        ({ s.site with
            exports :=
              s.site.exports ++ [w.export' sha key now m] },
          w.after) := by
    simp only [writeNext]
    rw [if_neg (by rw [hNot]; exact Bool.false_ne_true)]
  refine ⟨?_, hEq⟩
  rw [hEq]
  refine ⟨hShelved.record hIdeal now hFiling hHead
    hWritable.free hWritable.nodup hWritable.apart, ?_⟩
  unfold Writing.after
  by_cases hFirst : w.seq = 0
  · simp only [if_pos hFirst]
    refine ⟨hWritable.begun, ?_, ?_⟩
    · intro e hMem
      rcases List.mem_append.mp hMem with hOld | hNew
      · exact lt_trans (hWritable.first hFirst e hOld)
          (Int.lt_succ w.day)
      · rw [List.mem_singleton] at hNew
        rw [hNew]
        exact Int.lt_succ w.day
    · intro hDone
      left
      refine ⟨_, List.mem_append_right _
        (List.mem_singleton.mpr rfl), ?_⟩
      exact Int.sub_right_le_of_le_add hDone
  · simp only [if_neg hFirst]
    refine ⟨hWritable.begun, ?_⟩
    rcases (hWritable.again hFirst).2.2 with
      ⟨e, hMem, hDay⟩ | hLate
    · exact .inl ⟨e, List.mem_append_left _ hMem, hDay⟩
    · exact .inr hLate

theorem putSig_goes
    (hShelved : Shelved sha key s.site)
    (now : Int)
    {w : Writing H}
    {m : Manifest H}
    (hWritable : s.Writable w.today w.day w.seq w.rows)
    (hHead : s.site.chainHead = .ok w.prev)
    (hReady :
      StageReady sha key s.site.archive w (.putSig m)) :
    Goes sha key s
      (writeNext sha key now s.site w (.putSig m)) := by
  rcases hReady with ⟨hStored, hFile, hDescribes⟩
  simp only [writeNext]
  apply goes_put hShelved hWritable hHead
  · intro b hGet
    rcases hShelved.sig _ _ _ hGet with ⟨m', hStored', hData⟩
    have hEq := hStored.symm.trans hStored'
    cases hEq
    exact hData
  · intro hName
    cases hName
  · intro d q hName
    cases hName
  · intro d q hName
    cases hName
    exact ⟨m, hStored, rfl⟩
  · intro a hPut
    have hGrows := WriteOnce.put_grows hPut
    constructor
    case file => exact hGrows _ _ hFile
    case manifest => exact hGrows _ _ hStored
    case sig =>
      have hGet := WriteOnce.put_get? hPut w.manifestName.sig
      rw [if_pos rfl] at hGet
      exact hGet
    case fileSha => exact hDescribes.fileSha
    case name => exact hDescribes.name
    case keyId => exact hDescribes.keyId

theorem putManifest_goes
    (hShelved : Shelved sha key s.site)
    (now : Int)
    {w : Writing H}
    {m : Manifest H}
    (hWritable : s.Writable w.today w.day w.seq w.rows)
    (hHead : s.site.chainHead = .ok w.prev)
    (hReady :
      StageReady sha key s.site.archive w (.putManifest m)) :
    Goes sha key s
      (writeNext sha key now s.site w (.putManifest m)) := by
  rcases hReady with ⟨hNone, hFile, hDescribes⟩
  simp only [writeNext]
  apply goes_put hShelved hWritable hHead
  · intro b hGet
    have hAbsurd := hNone.symm.trans hGet
    cases hAbsurd
  · intro hName
    cases hName
  · intro d q hName
    cases hName
    exact ⟨m, w.rows, rfl, hDescribes.name, hDescribes.keyId,
      hFile, hDescribes.fileSha⟩
  · intro d q hName
    cases hName
  · intro a hPut
    have hGet := WriteOnce.put_get? hPut w.manifestName
    rw [if_pos rfl] at hGet
    exact ⟨hGet, WriteOnce.put_grows hPut _ _ hFile,
      hDescribes⟩

theorem putFile_goes
    (hShelved : Shelved sha key s.site)
    (now : Int)
    {w : Writing H}
    (hWritable : s.Writable w.today w.day w.seq w.rows)
    (hHead : s.site.chainHead = .ok w.prev)
    (hReady : StageReady sha key s.site.archive w .putFile) :
    Goes sha key s
      (writeNext sha key now s.site w .putFile) := by
  rcases hReady with ⟨hNone, hFree⟩
  simp only [writeNext]
  apply goes_put hShelved hWritable hHead hFree
  · intro hName
    cases hName
  · intro d q hName
    cases hName
  · intro d q hName
    cases hName
  · intro a hPut
    have hFile := WriteOnce.put_get? hPut w.fileName
    rw [if_pos rfl] at hFile
    have hManifest := WriteOnce.put_get? hPut w.manifestName
    rw [if_neg (by intro hName; cases hName)] at hManifest
    exact ⟨hManifest.trans hNone, hFile,
      newManifest_describes now w⟩

theorem putKey_goes
    (hShelved : Shelved sha key s.site)
    (now : Int)
    {w : Writing H}
    (hWritable : s.Writable w.today w.day w.seq w.rows)
    (hHead : s.site.chainHead = .ok w.prev) :
    Goes sha key s
      (writeNext sha key now s.site w .putKey) := by
  simp only [writeNext]
  apply goes_put hShelved hWritable hHead hShelved.pem
  · intro _
    rfl
  · intro d q hName
    cases hName
  · intro d q hName
    cases hName
  · intro a _
    trivial

/- No stage of a write raises. -/
theorem writeNext_goes
    (hIdeal : Function.Injective sha)
    (hShelved : Shelved sha key s.site)
    (now : Int)
    {w : Writing H}
    {stage : Stage H}
    (hPhase : s.Phase sha key (.write w stage))
    (hLeft : stage = .look → Adoptable sha s.site w = true) :
    Goes sha key s (writeNext sha key now s.site w stage) := by
  rcases hPhase with ⟨hWritable, hHead, hReady⟩
  cases stage with
  | putKey => exact putKey_goes hShelved now hWritable hHead
  | look =>
      exact look_goes hIdeal hShelved now hWritable hHead
        (hLeft rfl)
  | putFile =>
      exact putFile_goes hShelved now hWritable hHead hReady
  | putManifest m =>
      exact putManifest_goes hShelved now hWritable hHead hReady
  | putSig m =>
      exact putSig_goes hShelved now hWritable hHead hReady
  | verify m =>
      have hVerify :
          verifyManifest sha s.site.archive w.manifestName
            (some key) (some [key]) none = .ok m := by
        apply Filing.verifies hReady
        · exact List.mem_cons_self
        · intro h hNone
          cases hNone
      simp only [writeNext]
      rw [hVerify]
      exact ⟨hShelved, hWritable, hHead, hReady⟩
  | record m =>
      exact (record_goes hIdeal hShelved now hWritable hHead
        hReady).1

end Daily

end AuditLog

end TrueNorth

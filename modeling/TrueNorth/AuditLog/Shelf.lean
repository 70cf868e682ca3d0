import Mathlib.Algebra.BigOperators.Group.List.Basic
import TrueNorth.AuditLog.Chain
import TrueNorth.AuditLog.Filed

/-
  What one export is in the archive, with a hash that has no
  collisions, and what a site with such exports can be read
  for: every recorded export verifies, and the rows in a
  day's files are as many as the table of exports says.

  Key definitions include:
    * `Site.filed`
    * `Filing`
    * `Shelved`

  Main theorems:
    * `Filing.verifies`
    * `Shelved.exportedIds`
    * `Shelved.rowCounts`
    * `Shelved.exported`
-/

--------
-- The Rows in a Day's Files
--------

namespace TrueNorth

namespace AuditLog

variable {H : Type}

namespace Site

/- The rows in the file of one recorded export. -/
def rowsOf
    (s : Site H)
    (e : Export H) : List AuditRow :=
  match s.archive.get? e.fileName with
  | some (.rows rows) => rows
  | _ => []

/- The rows in the files of a day's recorded exports. -/
def filed
    (s : Site H)
    (day : Day) : List AuditRow :=
  (s.exports.filter (fun e => e.day = day)).flatMap s.rowsOf

/- The day has an export. -/
def recorded
    (s : Site H)
    (day : Day) : Bool :=
  s.exports.any (fun e => e.day = day)

variable {s s' : Site H}

theorem recorded_iff
    {day : Day} :
    s.recorded day = true ↔ ∃ e ∈ s.exports, e.day = day := by
  unfold recorded
  rw [List.any_eq_true]
  constructor
  · rintro ⟨e, hMem, hDay⟩
    exact ⟨e, hMem, decide_eq_true_eq.mp hDay⟩
  · rintro ⟨e, hMem, hDay⟩
    exact ⟨e, hMem, decide_eq_true hDay⟩

theorem mem_filed
    {day : Day}
    {r : AuditRow} :
    r ∈ s.filed day ↔
      ∃ e ∈ s.exports, e.day = day ∧ r ∈ s.rowsOf e := by
  unfold filed
  rw [List.mem_flatMap]
  constructor
  · rintro ⟨e, hMem, hRow⟩
    rw [List.mem_filter, decide_eq_true_eq] at hMem
    exact ⟨e, hMem.1, hMem.2, hRow⟩
  · rintro ⟨e, hMem, hDay, hRow⟩
    exact ⟨e, List.mem_filter.mpr ⟨hMem, decide_eq_true hDay⟩,
      hRow⟩

theorem filed_of_not_recorded
    {day : Day}
    (hNone : ∀ e ∈ s.exports, e.day ≠ day) :
    s.filed day = [] := by
  apply List.eq_nil_iff_forall_not_mem.mpr
  intro r hMem
  rcases mem_filed.mp hMem with ⟨e, hExport, hDay, _⟩
  exact hNone e hExport hDay

/- Nothing but the exports and their files is read. -/
theorem filed_congr
    (hExports : s'.exports = s.exports)
    (hRows : ∀ e ∈ s.exports, s'.rowsOf e = s.rowsOf e)
    (day : Day) :
    s'.filed day = s.filed day := by
  unfold filed
  rw [hExports]
  apply List.flatMap_congr
  intro e hMem
  exact hRows e (List.mem_of_mem_filter hMem)

end Site

end AuditLog

end TrueNorth

--------
-- One Export in the Archive
--------

namespace TrueNorth

namespace AuditLog

open Checks

variable {H : Type}

/- All three files of an export, as they belong together. -/
structure Filing
    (sha : Blob H → H)
    (key : Nat)
    (a : Archive H)
    (day : Day)
    (seq : Nat)
    (m : Manifest H)
    (rows : List AuditRow) : Prop where
  file : a.get? (.file day seq) = some (.rows rows)
  manifest : a.get? (.manifest day seq) = some (.manifest m)
  sig : a.get? (.sig (.manifest day seq)) =
    some (.signature key m)
  fileSha : m.fileSha = sha (.rows rows)
  name : m.file = .file day seq
  keyId : m.keyId = key

/- The export is recorded of what is filed. -/
structure Records
    (sha : Blob H → H)
    (e : Export H)
    (m : Manifest H)
    (rows : List AuditRow) : Prop where
  fileName : e.fileName = .file e.day e.seq
  manifestSha : e.manifestSha = sha (.manifest m)
  rowCount : e.rowCount = rows.length

namespace Filing

variable {sha : Blob H → H}
variable {key : Nat}
variable {a a' : Archive H}
variable {day : Day}
variable {seq : Nat}
variable {m : Manifest H}
variable {rows : List AuditRow}

theorem grows
    (hFiling : Filing sha key a day seq m rows)
    (hGrows : WriteOnce.Grows a a') :
    Filing sha key a' day seq m rows where
  file := hGrows _ _ hFiling.file
  manifest := hGrows _ _ hFiling.manifest
  sig := hGrows _ _ hFiling.sig
  fileSha := hFiling.fileSha
  name := hFiling.name
  keyId := hFiling.keyId

variable [DecidableEq H]

theorem verifies
    (hFiling : Filing sha key a day seq m rows)
    {trusted : List Nat}
    {expected : Option H}
    (hTrusted : key ∈ trusted)
    (hExpected : ∀ h, expected = some h →
      sha (.manifest m) = h) :
    verifyManifest sha a (.manifest day seq) (some key)
      (some trusted) expected = .ok m := by
  unfold verifyManifest
  refine bind_eq_ok.mpr
    ⟨_, Archive.read_eq_ok.mpr hFiling.manifest, ?_⟩
  refine bind_eq_ok.mpr
    ⟨_, Archive.read_eq_ok.mpr hFiling.sig, ?_⟩
  refine bind_eq_ok.mpr ⟨m, rfl, ?_⟩
  refine bind_eq_ok.mpr ⟨(), ?_, ?_⟩
  · rw [refuseIf_eq_ok]
    cases expected with
    | none => rfl
    | some h =>
        rw [Option.any_some, hExpected h rfl]
        exact decide_eq_false (not_not.mpr rfl)
  refine bind_eq_ok.mpr ⟨(), ?_, ?_⟩
  · rw [refuseIf_eq_ok, Option.any_some, Bool.not_eq_false',
      List.contains_iff_mem, hFiling.keyId]
    exact hTrusted
  refine bind_eq_ok.mpr ⟨.pem m.keyId, ?_, ?_⟩
  · unfold publicKey
    rw [if_pos (congrArg some hFiling.keyId.symm)]
  refine bind_eq_ok.mpr ⟨(), ?_, ?_⟩
  · rw [refuseIf_eq_ok]
    exact decide_eq_false (not_not.mpr rfl)
  refine bind_eq_ok.mpr ⟨(), ?_, ?_⟩
  · rw [refuseIf_eq_ok, hFiling.keyId]
    exact decide_eq_false (not_not.mpr rfl)
  refine bind_eq_ok.mpr ⟨.rows rows, ?_, ?_⟩
  · rw [hFiling.name]
    exact Archive.read_eq_ok.mpr hFiling.file
  refine bind_eq_ok.mpr ⟨(), ?_, rfl⟩
  rw [refuseIf_eq_ok]
  exact decide_eq_false (not_not.mpr hFiling.fileSha.symm)

end Filing

end AuditLog

end TrueNorth

--------
-- Sites Whose Exports Are All There
--------

namespace TrueNorth

namespace AuditLog

open Checks

variable {H : Type} [DecidableEq H]

omit [DecidableEq H] in
theorem Site.rowsOf_of_filing
    {sha : Blob H → H}
    {s : Site H}
    {e : Export H}
    {m : Manifest H}
    {rows : List AuditRow}
    (hFile :
      s.archive.get? (.file e.day e.seq) = some (.rows rows))
    (hRecords : Records sha e m rows) :
    s.rowsOf e = rows := by
  unfold rowsOf
  rw [hRecords.fileName, hFile]

structure Shelved
    (sha : Blob H → H)
    (key : Nat)
    (s : Site H) : Prop where
  pem : ∀ b, s.archive.get? (.key key) = some b → b = .pem key
  -- a manifest is put after its file, a signature after that
  manifest : ∀ d q m,
    s.archive.get? (.manifest d q) = some (.manifest m) →
      m.file = .file d q ∧ m.keyId = key ∧
        ∃ rows, s.archive.get? (.file d q) = some (.rows rows) ∧
          m.fileSha = sha (.rows rows)
  sig : ∀ d q b,
    s.archive.get? (.sig (.manifest d q)) = some b →
      ∃ m, s.archive.get? (.manifest d q) = some (.manifest m) ∧
        b = .signature key m
  records : ∀ e ∈ s.exports, ∃ m rows,
    Filing sha key s.archive e.day e.seq m rows ∧
      Records sha e m rows
  nodup : ∀ d, (s.filed d).Nodup
  chained : Chained s.exports

namespace Shelved

variable {sha : Blob H → H}
variable {key : Nat}
variable {s : Site H}

/- Every recorded export can be read. -/
theorem reads
    (hShelved : Shelved sha key s)
    {e : Export H}
    (hMem : e ∈ s.exports) :
    ∃ m, s.verifyExport sha key e = .ok m ∧
      sha (.manifest m) = e.manifestSha ∧
        s.archive.get? m.file = some (.rows (s.rowsOf e)) := by
  rcases hShelved.records e hMem with
    ⟨m, rows, hFiling, hRecords⟩
  refine ⟨m, ?_, hRecords.manifestSha.symm, ?_⟩
  · apply hFiling.verifies
    · exact List.mem_cons_self
    · intro h hSome
      cases hSome
      exact hRecords.manifestSha.symm
  · rw [hFiling.name, hFiling.file,
      Site.rowsOf_of_filing hFiling.file hRecords]

theorem idsOf
    (hShelved : Shelved sha key s)
    {e : Export H}
    (hMem : e ∈ s.exports) :
    s.idsOf sha key e = .ok ((s.rowsOf e).map AuditRow.id) := by
  rcases hShelved.reads hMem with ⟨m, hVerify, _, hFile⟩
  unfold Site.idsOf
  refine bind_eq_ok.mpr ⟨m, hVerify, ?_⟩
  exact bind_eq_ok.mpr
    ⟨_, Archive.read_eq_ok.mpr hFile, rfl⟩

/- The day's ids are those of the rows in its files. -/
theorem exportedIds
    (hShelved : Shelved sha key s)
    (day : Day) :
    ∃ ids, s.exportedIds sha key day = .ok ids ∧
      ∀ i, i ∈ ids ↔ ∃ r ∈ s.filed day, r.id = i := by
  have hAll :
      (s.exportsFor day).mapM (s.idsOf sha key) =
        .ok ((s.exportsFor day).map
          (fun e => (s.rowsOf e).map AuditRow.id)) := by
    apply mapM_of_ok
    intro e hMem
    exact hShelved.idsOf (Site.mem_exportsFor.mp hMem).1
  refine ⟨((s.exportsFor day).map
    (fun e => (s.rowsOf e).map AuditRow.id)).flatten, ?_, ?_⟩
  · unfold Site.exportedIds
    exact bind_eq_ok.mpr ⟨_, hAll, rfl⟩
  · intro i
    rw [List.mem_flatten]
    constructor
    · rintro ⟨ids, hIds, hi⟩
      rcases List.mem_map.mp hIds with ⟨e, hMem, rfl⟩
      rcases List.mem_map.mp hi with ⟨r, hRow, hId⟩
      rcases Site.mem_exportsFor.mp hMem with ⟨hExport, hDay⟩
      exact ⟨r, Site.mem_filed.mpr ⟨e, hExport, hDay, hRow⟩,
        hId⟩
    · rintro ⟨r, hRow, hId⟩
      rcases Site.mem_filed.mp hRow with
        ⟨e, hExport, hDay, hMem⟩
      refine ⟨(s.rowsOf e).map AuditRow.id, ?_, ?_⟩
      · exact List.mem_map_of_mem
          (Site.mem_exportsFor.mpr ⟨hExport, hDay⟩)
      · exact List.mem_map.mpr ⟨r, hMem, hId⟩

omit [DecidableEq H] in
/- As many rows are filed as the day's exports count. -/
theorem rowCounts
    (hShelved : Shelved sha key s)
    (day : Day) :
    ((s.exportsFor day).map Export.rowCount).sum =
      (s.filed day).length := by
  have hPerm :
      ((s.exportsFor day).map Export.rowCount).Perm
        ((s.exports.filter (fun e => e.day = day)).map
          Export.rowCount) := by
    unfold Site.exportsFor
    exact (List.mergeSort_perm _ _).map _
  rw [hPerm.sum_eq]
  unfold Site.filed
  rw [List.length_flatMap]
  congr 1
  apply List.map_congr_left
  intro e hMem
  rcases hShelved.records e (List.mem_of_mem_filter hMem) with
    ⟨m, rows, hFiling, hRecords⟩
  rw [hRecords.rowCount,
    Site.rowsOf_of_filing hFiling.file hRecords]

/- A row that is filed under its day has been exported. -/
theorem exported
    (hShelved : Shelved sha key s)
    {r : AuditRow}
    (hFiled : r ∈ s.filed r.day) :
    Exported sha key s r := by
  rcases Site.mem_filed.mp hFiled with
    ⟨e, hMem, hDay, hRow⟩
  rcases hShelved.reads hMem with ⟨m, hVerify, hSha, hFile⟩
  exact ⟨e, hMem, hDay, m, _, hVerify, hSha, hFile, hRow⟩

end Shelved

end AuditLog

end TrueNorth

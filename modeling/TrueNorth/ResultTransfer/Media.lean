import TrueNorth.ResultTransfer.RoundTrip

/-
  Result packages on removable media, and the receipts of
  those that were consumed (result_transfer/media.py).

  Any number of processes consume packages.  One step of a
  process is what nothing of another process comes between:
  to read a receipt, to apply a result, to create a receipt,
  to write it, to sync it.  The directory of the receipts is
  a real one, and only these processes write in it.

  Key definitions include:
    * `loadPackage`
    * `check`
    * `World`
    * `World.advance`, `World.crash`
    * `World.step`
-/

--------
-- Files
--------

namespace TrueNorth

namespace ResultTransfer

namespace Media

open Checks Texts

/-
  What a path leads to: nothing that can be opened (a link
  is not followed), a directory, a device, or bytes.
-/
inductive Entry where
| unreadable
| directory
| special
| regular (content : Bytes)
deriving DecidableEq

structure MediaFile where
  name : String
  entry : Entry

def packageSuffix : String := ".tnresult.json"

def maxPackageBytes : Nat := 1024 * 1024

/- `ResultTransferError`. -/
def refusal
    {A : Type}
    (message : String) : Except Failure A :=
  .error (.resultTransfer message)

/- `_package_id`. -/
def packageIdOf
    (package : List (String × Json)) : Except Failure Uuid :=
  match packageId? (Json.lookup package "package_id") with
  | some packageId => .ok packageId
  | none => refusal "package_id is missing or invalid"

/- A package that was loaded, and the bytes it was read from. -/
structure MediaPackage (lib : Libraries) where
  content : Bytes
  package : List (String × Json)
  packageId : Uuid
  hLoads : loads lib content = some (.obj package)
  hPackageId : packageIdOf package = .ok packageId

def MediaPackage.sha256
    {lib : Libraries}
    (m : MediaPackage lib) : String :=
  hexDigest (lib.sha256 m.content)

/- The same bytes are the same package. -/
theorem MediaPackage.eq_of_content
    {lib : Libraries}
    {m m' : MediaPackage lib}
    (hContent : m.content = m'.content) :
    m = m' := by
  rcases m with ⟨content, package, packageId, hLoads, hId⟩
  rcases m' with ⟨content', package', packageId', hLoads', hId'⟩
  cases hContent
  have hPackage : package = package' :=
    Json.obj.inj (Option.some.inj (hLoads.symm.trans hLoads'))
  cases hPackage
  cases Except.ok.inj (hId.symm.trans hId')
  rfl

/- `load_package`. -/
def loadPackage
    (lib : Libraries)
    (trustedSigningPublicKey destinationEnclave : String)
    (file : MediaFile) : Except Failure (MediaPackage lib) :=
  match file.entry with
  | .unreadable =>
      refusal ("result package must be a readable regular file, " ++
        "not a link or device")
  | .directory => refusal "result package is not valid UTF-8 JSON"
  | .special =>
      refusal ("result package must be a regular file, not a " ++
        "link or device")
  | .regular content =>
      if maxPackageBytes < content.length then
        refusal "package exceeds the removable-media size limit"
      else
        match hLoads : loads lib content with
        | none => refusal "result package is not valid UTF-8 JSON"
        | some (.obj package) =>
            match hId : packageIdOf package with
            | .error failure => .error failure
            | .ok packageId =>
                if file.name ≠
                    Uuid.text packageId ++ packageSuffix then
                  refusal ("result package filename does not " ++
                    "match its signed package_id")
                else if !verifyPackage lib package
                    trustedSigningPublicKey
                    destinationEnclave then
                  refusal ("result package signature or " ++
                    "destination is invalid")
                else
                  .ok ⟨content, package, packageId, hLoads, hId⟩
        | some _ => refusal "result package must be a JSON object"

/- A file that is named after the package that is in it. -/
theorem loadPackage_regular
    {lib : Libraries}
    {trusted destination : String}
    {content : Bytes}
    {package : List (String × Json)}
    {packageId : Uuid}
    (hShort : content.length ≤ maxPackageBytes)
    (hLoads : loads lib content = some (.obj package))
    (hId : packageIdOf package = .ok packageId)
    (hVerified :
      verifyPackage lib package trusted destination = true) :
    loadPackage lib trusted destination
        ⟨Uuid.text packageId ++ packageSuffix,
          .regular content⟩ =
      .ok ⟨content, package, packageId, hLoads, hId⟩ := by
  unfold loadPackage
  simp only [if_neg (Nat.not_lt.mpr hShort)]
  split
  · rename_i hNone
    rw [hLoads] at hNone
    cases hNone
  · rename_i package' hLoads'
    cases Json.obj.inj
      (Option.some.inj (hLoads.symm.trans hLoads'))
    split
    · rename_i failure hError
      rw [hId] at hError
      cases hError
    · rename_i packageId' hId'
      cases Except.ok.inj (hId.symm.trans hId')
      simp [hVerified]
  · rename_i j hOther hLoads'
    rw [hLoads] at hLoads'
    exact absurd (Option.some.inj hLoads').symm
      (hOther package)

--------
-- Receipts
--------

open Texts

/- `decode("ascii")`. -/
def ascii? (bytes : Bytes) : Option (List Char) :=
  if bytes.all (fun b => b < 128) then
    some (bytes.map (fun b => Char.ofNat b.toNat))
  else
    none

/-
  `FileConsumptionLedger.check`: whether this package was
  consumed, from what is found where its receipt would be.
-/
def check
    (receipt : Option Entry)
    (sha256 : String) : Except Failure Bool :=
  match receipt with
  | none => .ok false
  | some .unreadable =>
      refusal "consumption ledger receipt must be a regular file"
  | some .directory =>
      refusal "consumption ledger receipt is invalid"
  | some .special =>
      refusal "consumption ledger receipt is invalid"
  | some (.regular content) =>
      if 65 < content.length then
        refusal "consumption ledger receipt is invalid"
      else
        match ascii? content with
        | none => refusal "consumption ledger receipt is invalid"
        | some text =>
            if String.ofList (trimmed isSpace text) ≠ sha256 then
              refusal ("package_id was already consumed with " ++
                "different content")
            else
              .ok true

/- The bytes of a receipt that was written. -/
def receiptBytes (sha256 : String) : Bytes :=
  utf8 (sha256.toList ++ ['\n'])

--------
-- Consuming Packages
--------

/-
  Where packages are consumed: the keys, the name of the
  enclave, and the writer of results.
-/
structure Site (S : Type) where
  lib : Libraries
  trustedSigningPublicKey : String
  recipientPrivateKey : String
  destinationEnclave : String
  apply : S → DecryptedResult → S

variable {S : Type}

namespace Site

def load
    (site : Site S)
    (file : MediaFile) :
    Except Failure (MediaPackage site.lib) :=
  loadPackage site.lib site.trustedSigningPublicKey
    site.destinationEnclave file

def decrypt
    (site : Site S)
    (m : MediaPackage site.lib) :
    Except Failure DecryptedResult :=
  decryptPackage site.lib m.package site.trustedSigningPublicKey
    site.recipientPrivateKey site.destinationEnclave

end Site

/-
  How far a run of `consume_package` is: it loaded its
  package; found no receipt; applied the result; found that
  the receipt it was to create is there; created it; wrote
  it.
-/
inductive Stage where
| loaded
| checked
| applied
| found
| created
| written
deriving DecidableEq

structure Run (lib : Libraries) where
  package : MediaPackage lib
  stage : Stage

/- What is seen of the runs, by the number of a run. -/
inductive Event (lib : Libraries) where
| refused (p : Nat) (failure : Failure)
| applied (package : MediaPackage lib)
| ended
    (p : Nat)
    (package : MediaPackage lib)
    (answer : Except Failure ConsumptionStatus)

/- The runs in progress are numbered from the first one on. -/
structure World
    (lib : Libraries)
    (S : Type) where
  store : S
  receipts : Dict Uuid Entry
  runs : Nat → Option (Run lib)
  next : Nat
  log : List (Event lib)

namespace World

/- No package was consumed. -/
def start
    (lib : Libraries)
    (store : S) : World lib S where
  store := store
  receipts := Dict.empty
  runs := fun _ => none
  next := 0
  log := []

variable {site : Site S}

/- What is found where the receipt of a package would be. -/
def receipt
    (w : World site.lib S)
    (m : MediaPackage site.lib) : Option Entry :=
  w.receipts.get? m.packageId

/- Run `p` is at a stage, or it is over. -/
def setRun
    (w : World site.lib S)
    (p : Nat)
    (run : Option (Run site.lib)) : World site.lib S :=
  { w with runs := fun q => if q = p then run else w.runs q }

def note
    (w : World site.lib S)
    (event : Event site.lib) : World site.lib S :=
  { w with log := w.log ++ [event] }

def setReceipt
    (w : World site.lib S)
    (m : MediaPackage site.lib)
    (content : Bytes) : World site.lib S :=
  { w with
    receipts := w.receipts.set m.packageId (.regular content) }

/- `consume_package` returns, or raises. -/
def finish
    (w : World site.lib S)
    (p : Nat)
    (m : MediaPackage site.lib)
    (answer : Except Failure ConsumptionStatus) :
    World site.lib S :=
  (w.setRun p none).note (.ended p m answer)

/- A run begins: its package is loaded, or it is over. -/
def begin
    (w : World site.lib S)
    (file : MediaFile) : World site.lib S :=
  let w' := { w with next := w.next + 1 }
  match site.load file with
  | .ok m => w'.setRun w.next (some ⟨m, .loaded⟩)
  | .error failure => w'.note (.refused w.next failure)

/- The next step of a run, of `consume_package` or `record`. -/
def advance
    (w : World site.lib S)
    (p : Nat) : World site.lib S :=
  match w.runs p with
  | none => w
  | some ⟨m, .loaded⟩ =>
      match check (w.receipt m) m.sha256 with
      | .ok true => w.finish p m (.ok .duplicate)
      | .ok false => w.setRun p (some ⟨m, .checked⟩)
      | .error failure => w.finish p m (.error failure)
  | some ⟨m, .checked⟩ =>
      match site.decrypt m with
      | .ok result =>
          ({ w with store := site.apply w.store result }.note
            (.applied m)).setRun p (some ⟨m, .applied⟩)
      | .error failure => w.finish p m (.error failure)
  | some ⟨m, .applied⟩ =>
      match w.receipt m with
      | none =>
          (w.setReceipt m []).setRun p (some ⟨m, .created⟩)
      | some _ => w.setRun p (some ⟨m, .found⟩)
  | some ⟨m, .found⟩ =>
      match check (w.receipt m) m.sha256 with
      | .ok true => w.finish p m (.ok .applied)
      | .ok false =>
          w.finish p m
            (refusal "consumption receipt could not be recorded")
      | .error failure => w.finish p m (.error failure)
  | some ⟨m, .created⟩ =>
      (w.setReceipt m (receiptBytes m.sha256)).setRun p
        (some ⟨m, .written⟩)
  | some ⟨m, .written⟩ => w.finish p m (.ok .applied)

/-
  A run is no more.  Of what it wrote and did not sync, the
  first `kept` bytes are there.
-/
def crash
    (w : World site.lib S)
    (p kept : Nat) : World site.lib S :=
  match w.runs p with
  | none => w
  | some ⟨m, .written⟩ =>
      (w.setReceipt m ((receiptBytes m.sha256).take kept)).setRun p
        none
  | some _ => w.setRun p none

end World

inductive Action where
| begin (file : MediaFile)
| advance (p : Nat)
| crash (p kept : Nat)

def World.step
    {site : Site S}
    (w : World site.lib S) : Action → World site.lib S
| .begin file => w.begin file
| .advance p => w.advance p
| .crash p kept => w.crash p kept

end Media

end ResultTransfer

end TrueNorth

import SourceMatch.Proofs.Disk.Folders
import SourceMatch.Registry

/-!
The records of a registry. Opening a registry again changes nothing, so that its records are the
same before and after it was opened; registering puts one record among them and writes them all.
-/
namespace SourceMatch.Registry

variable {d d' : Disk} {r : Registry} {path : String} {record : Registration}

def recordsAt (d : Disk) (path : String) : Except RegistryError Records := do
  let (r, d) ← openAt d path
  r.load d

/-- The records are read back from their text. -/
def Survives (records : Records) : Prop :=
  Records.decoder.ofText records.toJson.pretty = .ok records

/-- Something stands where the file of a registry has its folder. -/
def HasFolder (d : Disk) (path : String) : Prop :=
  ∀ folder, Path.parent? path = some folder → folder = "" ∨ d.present folder = true

theorem openAt_of_hasFolder (h : HasFolder d path) : openAt d path = .ok (⟨path⟩, d) := by
  rw [openAt]
  cases above : Path.parent? path with
  | none => rfl
  | some folder =>
    have there : (folder = "" || d.present folder) = true := by simpa using h folder above
    dsimp only
    rw [there]
    rfl

theorem hasFolder_of_openAt (h : openAt d path = .ok (r, d')) :
    r = ⟨path⟩ ∧ HasFolder d' path := by
  rw [openAt] at h
  cases above : Path.parent? path with
  | none =>
    rw [above] at h
    cases h
    exact ⟨rfl, fun folder known => by rw [above] at known; cases known⟩
  | some folder =>
    rw [above] at h
    dsimp only at h
    split at h
    · rename_i there
      cases h
      refine ⟨rfl, fun folder' known => ?_⟩
      rw [above] at known
      cases known
      simpa using there
    · rename_i missing
      have named : folder ≠ "" := by
        rintro rfl
        simp at missing
      cases made : d.makeFolders folder with
      | error fault => rw [made] at h; cases h
      | ok d'' =>
        rw [made] at h
        cases h
        refine ⟨rfl, fun folder' known => .inr ?_⟩
        rw [above] at known
        cases known
        exact Disk.present_of_makeFolders named made

theorem hasFolder_put {loc : Disk.Location} {e : Disk.Entry} (fits : d.Fits loc e)
    (h : HasFolder d path) : HasFolder (d.put loc e) path :=
  fun folder above => (h folder above).imp_right (Disk.present_put fits)

theorem recordsAt_of_openAt (h : openAt d path = .ok (r, d')) :
    recordsAt d path = r.load d' := by
  rw [recordsAt, h]
  rfl

theorem recordsAt_of_hasFolder (h : HasFolder d path) :
    recordsAt d path = (⟨path⟩ : Registry).load d :=
  recordsAt_of_openAt (openAt_of_hasFolder h)

theorem recordsAt_opened (h : openAt d path = .ok (r, d')) :
    recordsAt d' path = recordsAt d path := by
  obtain ⟨rfl, there⟩ := hasFolder_of_openAt h
  rw [recordsAt_of_hasFolder there, recordsAt_of_openAt h]

theorem register_eq_ok (h : r.register d record = .ok d') :
    ∃ records, r.load d = .ok records ∧
      d.write r.path (records.add record).toJson.pretty = .ok d' := by
  rw [register] at h
  obtain ⟨records, loaded, saved⟩ := Json.bind_eq_ok.1 h
  refine ⟨records, loaded, ?_⟩
  rw [save] at saved
  cases written : d.write r.path (records.add record).toJson.pretty with
  | error fault => rw [written] at saved; cases saved
  | ok d'' =>
    rw [written] at saved
    cases saved
    rfl

theorem load_of_find {loc : Disk.Location} {text : String}
    (h : d.find r.path true = .ok (.entry loc (.text text))) :
    r.load d =
      match Records.decoder.ofText text with
      | .ok records => .ok records
      | .error fault => .error (.unreadable fault) := by
  rw [load, Disk.present_iff.2 ⟨_, _, h⟩, Disk.read_of_find h]
  rfl

theorem load_of_free {loc : Disk.Location} (free : d.find r.path true = .ok (.free loc)) :
    r.load d = .ok {} := by
  rw [load, Disk.present, Disk.stat, free]
  rfl

theorem register_of_free {loc : Disk.Location} (free : d.find r.path true = .ok (.free loc))
    (file : r.path.toList.getLast? ≠ some '/') :
    r.register d record = .ok (d.put loc (.text (Records.add {} record).toJson.pretty)) := by
  rw [register, load_of_free free]
  simp only [bind, Except.bind, save, Disk.write, if_neg file, free]
  rfl

theorem recordsAt_registered (opened : openAt d path = .ok (r, d'))
    {d'' : Disk} (registered : r.register d' record = .ok d'') :
    ∃ records, recordsAt d path = .ok records ∧
      d''.read path = .ok (records.add record).toJson.pretty ∧
      (Survives (records.add record) → recordsAt d'' path = .ok (records.add record)) := by
  obtain ⟨records, loaded, written⟩ := register_eq_ok registered
  obtain ⟨rfl, there⟩ := hasFolder_of_openAt opened
  obtain ⟨loc, fits, rfl, found⟩ := Disk.write_eq_ok written
  refine ⟨records, by rw [recordsAt_of_openAt opened, loaded], Disk.read_of_find found, ?_⟩
  intro survives
  rw [recordsAt_of_hasFolder (hasFolder_put fits there), load_of_find found, survives]

end SourceMatch.Registry

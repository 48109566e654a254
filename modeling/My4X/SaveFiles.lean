/-
**Saves on disk.**

The application saves a game as a file whose name is the time of the save, and loads the file of its
directory that was written last.  A write opens the file, which empties it, and may stop midway.  Of
files written at the same time the directory decides by its order, which is not specified.

Main definitions:

* `My4X.SaveFile`, `My4X.SavesDirectory` — the files of the directory, in its order;
* `My4X.SaveFiles.saveGame`, `My4X.SaveFiles.loadGame` — writing and reading a file;
* `My4X.SaveFiles.latestSavePath` — the file that was written last.

Main results:

* `My4X.SaveFiles.latestSavePath_eq_ok` — the latest save is one that no other is later than;
* `My4X.SaveFiles.latestSavePath_of_newest` — **a save that every other one is older than is the
  latest**, in whatever order the directory is gone through;
* `My4X.SaveFiles.mem_writeTo` — a write changes the file of its path alone.
-/

import My4X.RoundTrip
import Mathlib.Data.List.MinMax
import Mathlib.Data.String.Basic
import Mathlib.Order.ConditionallyCompleteLattice.Basic
import Mathlib.Data.Int.ConditionallyCompleteOrder

set_option relaxedAutoImplicit false
set_option autoImplicit false

namespace My4X

/-- A file of the directory of saves. -/
structure SaveFile where
  path : String
  data : List UInt8
  lastWriteTime : ℤ
  isRegularFile : Bool := true
  readable : Bool := true
  deriving DecidableEq

/-- The directory of saves, once it is made, with its files; no two have the same path. -/
structure SavesDirectory where
  made : Bool := false
  files : List SaveFile := []
  nodup : (files.map (·.path)).Nodup := by simp
  unmade : made = false → files = [] := by simp

/-- There are no saves yet. -/
def SavesDirectory.empty : SavesDirectory := {}

/-- What becomes of a write: the file cannot be opened, the write stops after some bytes, or it is
done. -/
inductive WriteOutcome
  | fails
  | cut (written : ℕ)
  | done
  deriving DecidableEq

namespace SaveFiles

/-! ### Paths -/

/-- The path of a save, by the time it is made at. -/
def generateSavePath (time : String) : String := "saves/savegame_" ++ time ++ ".bin"

/-- Whether the name of a file of the directory has the extension of a save; a name that starts with
its only dot has none. -/
def hasSaveExtension (path : String) : Bool :=
  ".bin".toList <:+ path.toList ∧ path.toList ≠ "saves/.bin".toList

theorem hasSaveExtension_generateSavePath (time : String) :
    hasSaveExtension (generateSavePath time) = true := by
  have hpath : (generateSavePath time).toList =
      "saves/savegame_".toList ++ time.toList ++ ".bin".toList := by
    rw [generateSavePath, String.toList_append, String.toList_append]
  refine decide_eq_true ⟨?_, fun h => ?_⟩
  · rw [hpath]
    exact List.suffix_append _ _
  · have hlength := congrArg List.length h
    rw [hpath, List.length_append, List.length_append] at hlength
    have hprefix : "saves/savegame_".toList.length = 15 := by decide
    have hname : "saves/.bin".toList.length = 10 := by decide
    omega

/-! ### Writing -/

/-- The file of a path. -/
def find (directory : SavesDirectory) (path : String) : Option SaveFile :=
  directory.files.find? (·.path = path)

/-- Puts a content under a path, in place of what is there. -/
def writeTo (files : List SaveFile) (path : String) (data : List UInt8) (time : ℤ) :
    List SaveFile :=
  if path ∈ files.map (·.path) then
    files.map fun file => if file.path = path then { file with data, lastWriteTime := time }
    else file
  else files ++ [{ path, data, lastWriteTime := time }]

/-- The paths after a write. -/
theorem map_path_writeTo (files : List SaveFile) (path : String) (data : List UInt8) (time : ℤ) :
    (writeTo files path data time).map (·.path) =
      if path ∈ files.map (·.path) then files.map (·.path) else files.map (·.path) ++ [path] := by
  rw [writeTo]
  split
  · rw [List.map_map]
    refine List.map_congr_left fun file _ => ?_
    rw [Function.comp_apply]
    split <;> rfl
  · rw [List.map_append]
    rfl

theorem nodup_writeTo {files : List SaveFile} (h : (files.map (·.path)).Nodup) (path : String)
    (data : List UInt8) (time : ℤ) : ((writeTo files path data time).map (·.path)).Nodup := by
  rw [map_path_writeTo]
  split
  · exact h
  · next hnew => exact List.nodup_append.2 ⟨h, List.nodup_singleton _, by
      intro p hp q hq
      rw [List.mem_singleton.1 hq]
      exact fun heq => hnew (heq ▸ hp)⟩

/-- Makes the directory if there is none. -/
def createDirectory (directory : SavesDirectory) : SavesDirectory where
  made := true
  files := directory.files
  nodup := directory.nodup
  unmade h := by cases h

/-- Writes a file of the directory. -/
def write (directory : SavesDirectory) (path : String) (data : List UInt8) (time : ℤ) :
    SavesDirectory where
  made := true
  files := writeTo directory.files path data time
  nodup := nodup_writeTo directory.nodup path data time
  unmade h := by cases h

/-- **Saving a game to a file.**  The directory is made when there is none; nothing is touched when
the game cannot be serialized. -/
def saveGame (codec : Codec) (directory : SavesDirectory) (state : GameState) (path : String)
    (time : ℤ) (outcome : WriteOutcome) : SavesDirectory × Bool :=
  match serializeGameState codec state with
  | .error _ => (directory, false)
  | .ok data =>
      match outcome with
      | .fails => (createDirectory directory, false)
      | .cut written => (write directory path (data.take written) time, false)
      | .done => (write directory path data time, true)

/-! ### Reading -/

/-- **Loading a game from a file.** -/
def loadGame (codec : Codec) (draws : ℕ → TerrainType) (directory : SavesDirectory)
    (path : String) : Except Fault GameState :=
  match find directory path with
  | none => .error (.runtimeError ("Save file not found: " ++ path))
  | some file =>
      if ¬ file.readable then .error (.runtimeError ("Cannot open save file: " ++ path))
      else if file.data = [] then .error (.runtimeError ("Save file is empty: " ++ path))
      else deserializeGameState codec draws file.data

/-- Whether a file of the directory is a save. -/
def isSave (file : SaveFile) : Bool := file.isRegularFile && hasSaveExtension file.path

/-- One file of the loop over the directory: a later save takes the place of the latest one so
far. -/
def newer (latest : Option SaveFile) (file : SaveFile) : Option SaveFile :=
  if ¬ isSave file then latest
  else
    match latest with
    | none => some file
    | some best => if best.lastWriteTime < file.lastWriteTime then some file else some best

/-- **The path of the save that was written last**; the directory is gone through in some order of
its files. -/
def latestSavePath (directory : SavesDirectory) (listing : List SaveFile) : Except Fault String :=
  if ¬ directory.made then .error (.runtimeError "No saves directory found")
  else
    match listing.foldl newer none with
    | none => .error (.runtimeError "No save files found in saves/")
    | some latest => .ok latest.path

/-! ### The latest save -/

/-- The loop finds the first of the saves that were written last. -/
theorem foldl_newer (files : List SaveFile) :
    files.foldl newer none = (files.filter isSave).argmax (·.lastWriteTime) := by
  have hloop : ∀ latest : Option SaveFile, files.foldl newer latest =
      (files.filter isSave).foldl
        (List.argAux fun b c => c.lastWriteTime < b.lastWriteTime) latest := by
    induction files with
    | nil => intro latest; rfl
    | cons file files ih =>
        intro latest
        rw [List.foldl_cons, ih]
        cases hsave : isSave file with
        | false =>
            have hskip : newer latest file = latest := if_pos (by simp [hsave])
            rw [List.filter_cons_of_neg (by simp [hsave]), hskip]
        | true =>
            have hone : newer latest file =
                List.argAux (fun b c : SaveFile => c.lastWriteTime < b.lastWriteTime) latest
                file := by
              rw [newer.eq_def, if_neg (by simp [hsave])]
              cases latest <;> rfl
            rw [List.filter_cons_of_pos hsave, List.foldl_cons, hone]
  exact hloop none

/-- **The latest save** is a save of the directory, and none was written later. -/
theorem latestSavePath_eq_ok {directory : SavesDirectory} {listing : List SaveFile} {path : String}
    (hlisting : listing.Perm directory.files) (h : latestSavePath directory listing = .ok path) :
    ∃ latest ∈ directory.files, isSave latest = true ∧ latest.path = path ∧
      ∀ file ∈ directory.files, isSave file = true → file.lastWriteTime ≤ latest.lastWriteTime := by
  rw [latestSavePath, foldl_newer] at h
  split at h
  · cases h
  · cases hlatest : (listing.filter isSave).argmax (·.lastWriteTime) with
    | none =>
        rw [hlatest] at h
        cases h
    | some latest =>
        rw [hlatest] at h
        obtain ⟨hmem, hsave⟩ := List.mem_filter.1 (List.argmax_mem hlatest)
        exact ⟨latest, hlisting.mem_iff.1 hmem, hsave, Except.ok.inj h, fun file hfile hs =>
          List.le_of_mem_argmax (List.mem_filter.2 ⟨hlisting.mem_iff.2 hfile, hs⟩) hlatest⟩

/-- There is a latest save as soon as there is a save. -/
theorem exists_latestSavePath {directory : SavesDirectory} {listing : List SaveFile}
    (hlisting : listing.Perm directory.files) {file : SaveFile} (hfile : file ∈ directory.files)
    (hsave : isSave file = true) : ∃ path, latestSavePath directory listing = .ok path := by
  have hmade : directory.made = true := by
    cases hmade : directory.made with
    | true => rfl
    | false =>
        rw [directory.unmade hmade] at hfile
        cases hfile
  rw [latestSavePath, foldl_newer, if_neg (by simp [hmade])]
  cases hlatest : (listing.filter isSave).argmax (·.lastWriteTime) with
  | none =>
      rw [List.argmax_eq_none, List.filter_eq_nil_iff] at hlatest
      exact absurd hsave (hlatest file (hlisting.mem_iff.2 hfile))
  | some latest => exact ⟨latest.path, rfl⟩

/-- **A save that every other one is older than is the latest**, in whatever order the directory is
gone through. -/
theorem latestSavePath_of_newest {directory : SavesDirectory} {listing : List SaveFile}
    (hlisting : listing.Perm directory.files) {newest : SaveFile} (hmem : newest ∈ directory.files)
    (hsave : isSave newest = true)
    (hnewest : ∀ file ∈ directory.files, file.path ≠ newest.path →
      file.lastWriteTime < newest.lastWriteTime) :
    latestSavePath directory listing = .ok newest.path := by
  obtain ⟨path, hpath⟩ := exists_latestSavePath hlisting hmem hsave
  obtain ⟨latest, hlatest, -, rfl, hle⟩ := latestSavePath_eq_ok hlisting hpath
  by_cases hsame : latest.path = newest.path
  · rw [hpath, hsame]
  · have hlt := hnewest latest hlatest hsame
    have hge := hle newest hmem hsave
    omega

/-- A file of the directory is found under its path. -/
theorem find_of_mem {directory : SavesDirectory} {file : SaveFile} (h : file ∈ directory.files) :
    find directory file.path = some file := by
  rw [find]
  cases hfind : directory.files.find? (·.path = file.path) with
  | none =>
      have hnot := List.find?_eq_none.1 hfind file h
      simp at hnot
  | some other =>
      have hpath : other.path = file.path := by simpa using List.find?_some hfind
      have hmem := List.mem_of_find?_eq_some hfind
      rw [List.inj_on_of_nodup_map directory.nodup hmem h hpath]

/-! ### What a write changes -/

/-- **A write leaves the other files as they are, and its own file has the content.** -/
theorem mem_writeTo {files : List SaveFile} {path : String} {data : List UInt8} {time : ℤ}
    {file : SaveFile} :
    file ∈ writeTo files path data time ↔ (file ∈ files ∧ file.path ≠ path) ∨
      (file.path = path ∧ file.data = data ∧ file.lastWriteTime = time ∧
        ((∃ old ∈ files, old.path = path ∧ file = { old with data, lastWriteTime := time }) ∨
          (path ∉ files.map (·.path) ∧ file = { path, data, lastWriteTime := time }))) := by
  rw [writeTo]
  split
  · next hold =>
      rw [List.mem_map]
      constructor
      · rintro ⟨old, hmem, rfl⟩
        split
        · next hpath => exact Or.inr ⟨hpath, rfl, rfl, Or.inl ⟨old, hmem, hpath, rfl⟩⟩
        · next hpath => exact Or.inl ⟨hmem, hpath⟩
      · rintro (⟨hmem, hpath⟩ | ⟨-, -, -, ⟨old, hmem, hpath, rfl⟩ | ⟨hnew, -⟩⟩)
        · exact ⟨file, hmem, if_neg hpath⟩
        · exact ⟨old, hmem, if_pos hpath⟩
        · exact absurd hold hnew
  · next hnew =>
      rw [List.mem_append, List.mem_singleton]
      constructor
      · rintro (hmem | rfl)
        · exact Or.inl ⟨hmem, fun hpath => hnew (List.mem_map.2 ⟨file, hmem, hpath⟩)⟩
        · exact Or.inr ⟨rfl, rfl, rfl, Or.inr ⟨hnew, rfl⟩⟩
      · rintro (⟨hmem, -⟩ | ⟨-, -, -, ⟨old, hmem, hpath, -⟩ | ⟨-, rfl⟩⟩)
        · exact Or.inl hmem
        · exact absurd (List.mem_map.2 ⟨old, hmem, hpath⟩) hnew
        · exact Or.inr rfl

/-- There is the file that was written. -/
theorem exists_mem_writeTo (files : List SaveFile) (path : String) (data : List UInt8) (time : ℤ) :
    ∃ file ∈ writeTo files path data time, file.path = path ∧ file.data = data ∧
      file.lastWriteTime = time := by
  have hpath : path ∈ (writeTo files path data time).map (·.path) := by
    rw [map_path_writeTo]
    split
    · next hold => exact hold
    · exact List.mem_append_right _ (List.mem_singleton.2 rfl)
  obtain ⟨file, hfile, rfl⟩ := List.mem_map.1 hpath
  rcases mem_writeTo.1 hfile with ⟨-, hne⟩ | ⟨-, hdata, htime, -⟩
  · exact absurd rfl hne
  · exact ⟨file, hfile, rfl, hdata, htime⟩

/-- **A save that is reported as done** has written what the game is serialized to. -/
theorem saveGame_done {codec : Codec} {directory : SavesDirectory} {state : GameState}
    {path : String} {time : ℤ} {outcome : WriteOutcome}
    (h : (saveGame codec directory state path time outcome).2 = true) :
    ∃ data, serializeGameState codec state = .ok data ∧
      (saveGame codec directory state path time outcome).1 = write directory path data time := by
  rw [saveGame] at h ⊢
  cases hdata : serializeGameState codec state with
  | error e =>
      rw [hdata] at h
      cases h
  | ok data =>
      rw [hdata] at h
      cases outcome with
      | fails => cases h
      | cut written => cases h
      | done => exact ⟨data, rfl, rfl⟩

end SaveFiles

end My4X

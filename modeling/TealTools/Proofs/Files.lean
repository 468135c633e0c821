import TealTools.Proofs.Entries
import TealTools.TrafficLog

/-!
# Files that are written

Writing a file settles what stands at its place.  It moves nothing else, so the
path of the file still leads to it.
-/

namespace TealTools

namespace Files

theorem get?_set (files : Files) (place other : FilePlace)
    (entry : FileEntry) (named : place.names ≠ []) :
    (files.set place entry).get? other =
      if other = place then some entry else files.get? other := by
  by_cases top : other.names.isEmpty = true
  · have different : other ≠ place := by
      rintro rfl
      exact named (List.isEmpty_iff.mp top)
    rw [if_neg different, get?, get?, if_pos top, if_pos top]
  · rw [get?, get?, if_neg top, if_neg top, set, Entries.lookup_cons,
      Entries.lookup_filter_ne]
    by_cases same : other = place
    · rw [if_pos same, if_pos same]
    · rw [if_neg same, if_neg same, if_neg same]

/-- What a file holds does not matter to paths. -/
private theorem walk_set {files : Files} {place : FilePlace} {old : Bytes}
    (named : place.names ≠ []) (isFile : files.get? place = some (.file old))
    (content : Bytes) (start : FilePlace) (names : List Bytes) :
    (files.set place (.file content)).walk start names =
      files.walk start names := by
  induction names generalizing start with
  | nil => rfl
  | cons name names ih =>
      rw [walk, walk, get?_set _ _ _ _ named]
      by_cases here : start = place
      · rw [if_pos here, here, isFile]
      · rw [if_neg here]
        simp only [ih]

end Files

/-- What a log holds can be read from its file. -/
theorem TrafficLog.read_save {files : Files} {path : Bytes} {place : FilePlace}
    {old : Bytes} (log : TrafficLog) (located : files.locate path = .ok place)
    (isFile : files.get? place = some (.file old))
    (plain : Files.wantsDirectory path = false) :
    (log.save path files).read path = .ok log.content := by
  have named : place.names ≠ [] := by
    intro top
    rw [Files.get?, top] at isFile
    cases isFile
  have again : (files.set place (.file log.content)).locate path =
      .ok place := by
    rw [← located, Files.locate, Files.locate]
    simp only [Files.walk_set named isFile]
  have found := Files.get?_set files place place (.file log.content) named
  rw [if_pos rfl] at found
  simp only [save, located, isFile, Files.read, again, found, plain, bind,
    Except.bind]
  rfl

end TealTools

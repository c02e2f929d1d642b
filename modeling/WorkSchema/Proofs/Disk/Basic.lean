import Mathlib.Data.List.Infix
import WorkSchema.Disk.Basic
import WorkSchema.Proofs.Collection.OrderedMap

/-!
What is found on a disk after something was put there. Files and folders are told
apart by their ways alone, so these laws are about entries found under a way, and
what a folder lists is what can be found directly below it.
-/

namespace WorkSchema

namespace Path

theorem extensionOf?_of_dot {name before extension : List Char} (hbefore : before ≠ [])
    (hextension : '.' ∉ extension) (hname : name = before ++ '.' :: extension) :
    extensionOf? (String.ofList name) = some (String.ofList extension) := by
  have hplain : ∀ c ∈ extension.reverse, decide (c ≠ '.') = true := by
    intro c hc
    rw [decide_eq_true_iff]
    rintro rfl
    exact hextension (List.mem_reverse.mp hc)
  obtain ⟨first, rest, hrest⟩ := List.exists_cons_of_ne_nil
    (fun hnil => hbefore (List.reverse_eq_nil_iff.mp hnil))
  have hbackwards : name.reverse = extension.reverse ++ '.' :: first :: rest := by
    rw [hname, List.reverse_append, List.reverse_cons, hrest, List.append_assoc]
    rfl
  rw [extensionOf?, String.toList_ofList, hbackwards, List.dropWhile_append_of_pos hplain,
    List.takeWhile_append_of_pos hplain]
  simp

/-- A name that begins with its only dot has no extension. -/
theorem extensionOf?_of_hidden {name rest : List Char} (hrest : '.' ∉ rest)
    (hname : name = '.' :: rest) : extensionOf? (String.ofList name) = none := by
  have hplain : ∀ c ∈ rest.reverse, decide (c ≠ '.') = true := by
    intro c hc
    rw [decide_eq_true_iff]
    rintro rfl
    exact hrest (List.mem_reverse.mp hc)
  rw [extensionOf?, String.toList_ofList, hname, List.reverse_cons,
    List.dropWhile_append_of_pos hplain]
  simp

/-- No names lead to the working folder. -/
theorem names_workingFolder : (⟨"."⟩ : Path).names = [] := by
  have hsplit : ".".splitOn "/" = ["."] := by
    change String.splitOnAux "." "/" 0 0 0 [] = ["."]
    rw [String.splitOnAux, if_neg (by decide), if_neg (by decide), String.splitOnAux,
      if_pos (by decide)]
    decide
  have hrelative : isAbsolute ⟨"."⟩ = false := by decide +kernel
  rw [names, hrelative, parts, hsplit]
  decide

end Path

namespace Disk

variable {disk : Disk} {names way : List String} {entry : DiskEntry}

theorem lookup_putEntry (entries : List (List String × DiskEntry)) :
    (putEntry names entry entries).lookup way =
      if way = names then some entry else entries.lookup way := by
  induction entries with
  | nil => exact OrderedMap.lookup_cons_if (names, entry) [] way
  | cons first rest ih =>
      obtain ⟨other, old⟩ := first
      rw [putEntry]
      split
      · rename_i hother
        rw [OrderedMap.lookup_cons_if, OrderedMap.lookup_cons_if, hother]
        split <;> rfl
      · rename_i hother
        rw [OrderedMap.lookup_cons_if, OrderedMap.lookup_cons_if, ih]
        split
        · rename_i hway
          rw [if_neg (hway ▸ hother)]
        · rfl

theorem entry?_put (disk : Disk) (hnames : names ≠ []) (entry : DiskEntry) (way : List String) :
    entry? (disk.put names entry) way = if way = names then some entry else disk.entry? way := by
  cases way with
  | nil => simp [Disk.entry?, Ne.symm hnames]
  | cons name rest => simp [Disk.entry?, put, lookup_putEntry]

theorem mem_entries_of_entry? (hnames : names ≠ []) (hentry : disk.entry? names = some entry) :
    (names, entry) ∈ disk.entries := by
  rw [Disk.entry?, if_neg (by simpa using hnames)] at hentry
  obtain ⟨before, after, hsplit, _⟩ := List.lookup_eq_some_iff.mp hentry
  simp [hsplit]

theorem entry?_of_putEntry {after : Disk} (hnames : names ≠ [])
    (hentries : after.entries = putEntry names entry disk.entries) :
    after.entry? way = if way = names then some entry else disk.entry? way := by
  have hput := entry?_put disk hnames entry way
  rw [Disk.entry?, put] at hput
  rw [Disk.entry?, hentries]
  exact hput

section Filter

variable (keep : List String → Bool)

theorem lookup_filter (entries : List (List String × DiskEntry)) (hway : keep way = true) :
    (entries.filter fun entry => keep entry.1).lookup way = entries.lookup way := by
  induction entries with
  | nil => rfl
  | cons first rest ih =>
      rw [OrderedMap.lookup_cons_if, List.filter_cons]
      split
      · rw [OrderedMap.lookup_cons_if, ih]
      · rename_i hdropped
        have hne : way ≠ first.1 := by
          intro hsame
          rw [← hsame, hway] at hdropped
          exact hdropped rfl
        rw [if_neg hne, ih]

/-- Putting an entry and leaving out entries can be exchanged. -/
theorem filter_putEntry (names : List String) (entry : DiskEntry)
    (entries : List (List String × DiskEntry)) :
    (putEntry names entry entries).filter (fun entry => keep entry.1) =
      if keep names then putEntry names entry (entries.filter fun entry => keep entry.1)
      else entries.filter fun entry => keep entry.1 := by
  induction entries with
  | nil => cases hnames : keep names <;> simp [putEntry, hnames]
  | cons first rest ih =>
      obtain ⟨other, old⟩ := first
      rw [putEntry]
      by_cases hother : other = names
      · subst hother
        cases hkeep : keep other <;> simp [putEntry, hkeep]
      · rw [if_neg hother, List.filter_cons, List.filter_cons, ih]
        cases hkeep : keep other <;> cases hnames : keep names <;> simp [putEntry, hother]

end Filter

/-- A folder lists what lies directly in it. -/
theorem list_eq_ok (hfolder : disk.entry? names = some .folder) :
    ∃ files, disk.list names = .ok files ∧
      ∀ name, name ∈ files ↔ (disk.entry? (names ++ [name])).isSome := by
  refine ⟨_, by rw [list, hfolder]; rfl, ?_⟩
  intro name
  have hfound : disk.entry? (names ++ [name]) = disk.entries.lookup (names ++ [name]) := by
    simp [Disk.entry?]
  rw [hfound, List.lookup_isSome_iff, List.mem_filterMap]
  constructor
  · rintro ⟨⟨way, entry⟩, hmem, hname⟩
    dsimp only at hname
    split at hname
    · rename_i hway
      refine ⟨(way, entry), hmem, ?_⟩
      have hsplit : way.dropLast ++ [name] = way := List.dropLast_append_getLast? name hname
      rw [hway] at hsplit
      simpa using hsplit
    · cases hname
  · rintro ⟨⟨way, entry⟩, hmem, hway⟩
    have hsame : names ++ [name] = way := by simpa using hway
    subst hsame
    exact ⟨_, hmem, by simp⟩

theorem fromUTF8?_toUTF8 (text : String) : String.fromUTF8? text.toUTF8 = some text := by
  have hvalid : text.toUTF8.IsValidUTF8 := text.isValidUTF8
  rw [String.fromUTF8?, dif_pos hvalid]
  rfl

theorem readText_eq_ok {text : String} (hfile : disk.entry? names = some (.file text.toUTF8)) :
    disk.readText names = .ok text := by
  rw [readText, readBytes, hfile]
  simp only [pure, Except.pure, bind, Except.bind, fromUTF8?_toUTF8]

/-- Whether a disk is another one with one file replaced or added, and no fault is to
come. -/
structure Replaced (disk after : Disk) (names : List String) (content : ByteArray) : Prop where
  faultless : after.faults = []
  found : ∀ way, after.entry? way = if way = names then some (.file content) else disk.entry? way

theorem Replaced.other {after : Disk} {content : ByteArray}
    (hreplaced : disk.Replaced after names content) (hother : way ≠ names) :
    after.entry? way = disk.entry? way := by
  rw [hreplaced.found, if_neg hother]

/-- Without faults a file is replaced if its folder is there and it is no folder itself. -/
theorem replace_eq_ok (content : ByteArray) (hfaults : disk.faults = []) (hnames : names ≠ [])
    (hfolder : disk.entry? names.dropLast = some .folder)
    (hfile : disk.entry? names ≠ some .folder) :
    ∃ after, disk.replace names content = (.ok (), after) ∧ disk.Replaced after names content := by
  have hcounted : ∀ way, entry? {disk with faults := [], temporaries := disk.temporaries + 1} way =
      disk.entry? way := fun _ => rfl
  refine ⟨put {disk with faults := [], temporaries := disk.temporaries + 1} names (.file content),
    ?_, rfl, ?_⟩
  · simp [replace, hfaults, hcounted, hfolder, isFolder, hfile]
  · intro way
    rw [entry?_put _ hnames, hcounted]

/-- A replacement succeeds only there, puts the file in its place and does nothing else. -/
theorem of_replace_ok {content : ByteArray} {after : Disk}
    (hreplace : disk.replace names content = (.ok (), after)) :
    disk.entry? names.dropLast = some .folder ∧ disk.entry? names ≠ some .folder ∧
      after.entries = putEntry names (.file content) disk.entries := by
  unfold replace at hreplace
  dsimp only at hreplace
  split at hreplace
  · rename_i hfolder
    split at hreplace
    · cases hreplace
    · cases hreplace
    · split at hreplace
      · cases hreplace
      · rename_i hfile
        cases hreplace
        refine ⟨hfolder, ?_, rfl⟩
        intro hentry
        exact hfile (beq_iff_eq.mpr hentry)
  · cases hreplace
  · cases hreplace

/-- One that fails may leave a temporary file behind, in the folder of the file. -/
theorem entries_of_replace_error {content : ByteArray} {error : FileError} {after : Disk}
    (hreplace : disk.replace names content = (.error error, after)) :
    after.entries = disk.entries ∨
      ∃ left, after.entries =
        putEntry (names.dropLast ++ [disk.temporaryName]) (.file left) disk.entries := by
  unfold replace at hreplace
  dsimp only at hreplace
  split at hreplace
  · split at hreplace
    · cases hreplace
      split
      · exact Or.inr ⟨_, rfl⟩
      · exact Or.inl rfl
    · cases hreplace
      exact Or.inr ⟨_, rfl⟩
    · split at hreplace
      · cases hreplace
        exact Or.inr ⟨_, rfl⟩
      · cases hreplace
  · cases hreplace
    exact Or.inl rfl
  · cases hreplace
    exact Or.inl rfl

/-- Whether no part of a way is a file, so that it can be made a way of folders. -/
def Unblocked (disk : Disk) (names : List String) : Prop :=
  ∀ way content, way <+: names → disk.entry? way ≠ some (.file content)

/-- A file that is not on a way does not block it. -/
theorem Unblocked.replaced {after : Disk} {file : List String} {content : ByteArray}
    (hunblocked : disk.Unblocked names) (hreplaced : disk.Replaced after file content)
    (hother : ¬ file <+: names) : after.Unblocked names := by
  intro way content hway
  have hne : way ≠ file := by
    rintro rfl
    exact hother hway
  rw [hreplaced.other hne]
  exact hunblocked way content hway

private theorem entry?_makeFoldersBelow (above : List String) {rest : List String}
    (habove : ∀ way, way <+: above → disk.entry? way = some .folder)
    (hunblocked : disk.Unblocked (above ++ rest)) :
    ∃ after, disk.makeFoldersBelow above rest = (.ok (), after) ∧ after.faults = disk.faults ∧
      ∀ way, after.entry? way =
        if way <+: above ++ rest then some .folder else disk.entry? way := by
  induction rest generalizing disk above with
  | nil =>
      refine ⟨disk, rfl, rfl, ?_⟩
      intro way
      rw [List.append_nil]
      split
      · rename_i hway
        exact habove way hway
      · rfl
  | cons name rest ih =>
      have hway : above ++ name :: rest = above ++ [name] ++ rest := by simp
      rw [hway] at hunblocked ⊢
      have hreached : ∀ way, way <+: above ++ [name] → way <+: above ∨ way = above ++ [name] := by
        intro way hprefix
        exact (List.prefix_concat_iff.mp hprefix).symm
      simp only [makeFoldersBelow]
      cases hentry : disk.entry? (above ++ [name]) with
      | none =>
          have hnonempty : above ++ [name] ≠ [] := by simp
          have hput := entry?_put disk hnonempty .folder
          have hstep : ∀ way, way <+: above ++ [name] →
              entry? (disk.put (above ++ [name]) .folder) way = some .folder := by
            intro way hprefix
            rw [hput]
            rcases hreached way hprefix with hold | rfl
            · split
              · rfl
              · exact habove way hold
            · rw [if_pos rfl]
          have hfree : Unblocked (disk.put (above ++ [name]) .folder)
              (above ++ [name] ++ rest) := by
            intro way content hprefix
            rw [hput]
            split
            · simp
            · exact hunblocked way content hprefix
          obtain ⟨after, hafter, hfaults, hfound⟩ := ih (above ++ [name]) hstep hfree
          refine ⟨after, hafter, hfaults, ?_⟩
          intro way
          rw [hfound, hput]
          split
          · rfl
          · rename_i hnot
            rw [if_neg]
            rintro rfl
            exact hnot (List.prefix_append _ _)
      | some entry =>
          cases entry with
          | file content => exact absurd hentry (hunblocked _ content (List.prefix_append _ _))
          | folder =>
              have hstep : ∀ way, way <+: above ++ [name] → disk.entry? way = some .folder := by
                intro way hprefix
                rcases hreached way hprefix with hold | rfl
                · exact habove way hold
                · exact hentry
              exact ih (above ++ [name]) hstep hunblocked

/-- Making folders along an unblocked way makes every part of it a folder, and changes
nothing else. -/
theorem entry?_makeFolders (hunblocked : disk.Unblocked names) :
    ∃ after, disk.makeFolders names = (.ok (), after) ∧ after.faults = disk.faults ∧
      ∀ way, after.entry? way = if way <+: names then some .folder else disk.entry? way := by
  apply entry?_makeFoldersBelow []
  · intro way hway
    rw [List.prefix_nil.mp hway]
    rfl
  · exact hunblocked

private theorem folder_of_makeFoldersBelow {after : Disk} (above : List String)
    {rest : List String} (habove : ∀ way, way <+: above → disk.entry? way = some .folder)
    (hmake : disk.makeFoldersBelow above rest = (.ok (), after)) :
    (∀ way, way <+: above ++ rest → after.entry? way = some .folder) ∧
      ∀ way, disk.entry? way = some .folder → after.entry? way = some .folder := by
  induction rest generalizing disk above with
  | nil =>
      cases hmake
      rw [List.append_nil]
      exact ⟨habove, fun _ hfolder => hfolder⟩
  | cons name rest ih =>
      have hway : above ++ name :: rest = above ++ [name] ++ rest := by simp
      rw [hway]
      simp only [makeFoldersBelow] at hmake
      cases hentry : disk.entry? (above ++ [name]) with
      | none =>
          rw [hentry] at hmake
          have hnonempty : above ++ [name] ≠ [] := by simp
          have hput := entry?_put disk hnonempty .folder
          have hkept : ∀ way, disk.entry? way = some .folder →
              entry? (disk.put (above ++ [name]) .folder) way = some .folder := by
            intro way hfolder
            rw [hput]
            split
            · rfl
            · exact hfolder
          obtain ⟨hmade, hrest⟩ := ih (above ++ [name]) (fun way hprefix => by
            rcases List.prefix_concat_iff.mp hprefix with rfl | hold
            · rw [hput, if_pos rfl]
            · exact hkept way (habove way hold)) hmake
          exact ⟨hmade, fun way hfolder => hrest way (hkept way hfolder)⟩
      | some entry =>
          rw [hentry] at hmake
          cases entry with
          | file content => cases hmake
          | folder =>
              refine ih (above ++ [name]) (fun way hprefix => ?_) hmake
              rcases List.prefix_concat_iff.mp hprefix with rfl | hold
              · exact hentry
              · exact habove way hold

/-- Where folders were made, every part of the way is a folder, and folders stay. -/
theorem folder_of_makeFolders {after : Disk} (hmake : disk.makeFolders names = (.ok (), after)) :
    (∀ way, way <+: names → after.entry? way = some .folder) ∧
      ∀ way, disk.entry? way = some .folder → after.entry? way = some .folder := by
  refine folder_of_makeFoldersBelow [] ?_ hmake
  intro way hway
  rw [List.prefix_nil.mp hway]
  rfl

private theorem makeFoldersBelow_eq_self (above : List String) {rest : List String}
    (hfolders : ∀ way, way <+: above ++ rest → disk.entry? way = some .folder) :
    disk.makeFoldersBelow above rest = (.ok (), disk) := by
  induction rest generalizing above with
  | nil => rfl
  | cons name rest ih =>
      have hway : above ++ name :: rest = above ++ [name] ++ rest := by simp
      rw [hway] at hfolders
      simp only [makeFoldersBelow, hfolders _ (List.prefix_append (above ++ [name]) rest)]
      exact ih (above ++ [name]) hfolders

/-- Folders that are there are not made again. -/
theorem makeFolders_eq_self (hfolders : ∀ way, way <+: names → disk.entry? way = some .folder) :
    disk.makeFolders names = (.ok (), disk) :=
  makeFoldersBelow_eq_self [] hfolders

/-- Whether a folder is empty, or not there but such that it can be made. -/
structure Vacant (disk : Disk) (names : List String) : Prop where
  unblocked : disk.Unblocked names
  empty : disk.below names = []

theorem Vacant.entry?_eq_none (hvacant : disk.Vacant names) {more : List String}
    (hmore : more ≠ []) : disk.entry? (names ++ more) = none := by
  have hfound : disk.entry? (names ++ more) = disk.entries.lookup (names ++ more) := by
    simp [Disk.entry?, hmore]
  rw [hfound, List.lookup_eq_none_iff]
  rintro ⟨way, entry⟩ hmem
  have hbelow := List.filterMap_eq_nil_iff.mp hvacant.empty (way, entry) hmem
  rw [bne_iff_ne]
  rintro rfl
  simp [hmore] at hbelow

end Disk

end WorkSchema

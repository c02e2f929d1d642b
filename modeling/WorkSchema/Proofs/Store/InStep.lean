import WorkSchema.Proofs.Store.Failure
import WorkSchema.Proofs.Store.Refinement

/-!
A store and its files keep in step. If the folder was empty when the store was opened, the
files say what the store holds, but for what failed writes left behind, whatever was to be
written since and whether or not it was. Such a store is opened again as it is, if what it
holds reads back.
-/

namespace WorkSchema

namespace DirectoryStore

variable {store : DirectoryStore}

/-- Whether the files of a store say what it holds, but for what failed writes left
behind. -/
structure InStep (store : DirectoryStore) : Prop where
  linksKnown : store.catalog.LinksKnown
  records : ∃ disk, store.disk.Alike store.root disk ∧
    disk.Records store.format store.root store.catalog ∧ disk.Ready store.root

/-- The same replacement on disks that are alike leaves them alike. -/
private theorem alike_of_replaceText_ok {root : Path} {a b after after' : Disk}
    {names : List String} {text : String} (halike : a.Alike root b)
    (hrun : (replaceText names text).run a = .ok () after)
    (hother : (replaceText names text).run b = .ok () after') : after.Alike root after' := by
  obtain ⟨_, _, hentries⟩ := Disk.of_replace_ok (replaceText_run_eq_ok.mp hrun)
  obtain ⟨_, _, hentries'⟩ := Disk.of_replace_ok (replaceText_run_eq_ok.mp hother)
  exact halike.putEntry hentries hentries'

namespace InStep

/-- A replacement that would record the change on a disk without faults keeps a store in
step, whether or not it succeeds. -/
private theorem replace {names : List String} {text : String} {change : Catalog → Catalog}
    (hstep : store.InStep) (hfolder : names.dropLast ∈ folders store.root)
    (hknown : (change store.catalog).LinksKnown)
    (hrecord : ∀ disk, disk.Records store.format store.root store.catalog →
      disk.Ready store.root → ∃ after, (replaceText names text).run disk = .ok () after ∧
        after.Records store.format store.root (change store.catalog) ∧ after.Ready store.root) :
    Outcome.Ensures (do write names text; setCatalog change : StoreM DirectoryStore Unit) store
      (fun _ after => after.InStep) InStep := by
  obtain ⟨disk, halike, hrecords, hready⟩ := hstep.records
  unfold Outcome.Ensures
  cases hrun : (do write names text; setCatalog change : StoreM DirectoryStore Unit).run store with
  | ok _ after =>
      obtain ⟨written, hwrite, rfl⟩ := replace_run_eq_ok.mp hrun
      obtain ⟨recorded, hwrite', hrecords', hready'⟩ := hrecord disk hrecords hready
      exact ⟨hknown, recorded, alike_of_replaceText_ok halike hwrite hwrite', hrecords', hready'⟩
  | error error after =>
      obtain ⟨left, hwrite, rfl⟩ := replace_run_eq_error.mp hrun
      have hleft := alike_of_replaceText_error hfolder hwrite
      exact ⟨hstep.linksKnown, disk, hleft.symm.trans halike, hrecords, hready⟩

theorem save (hstep : store.InStep) (type : WorkItemType) :
    Outcome.Ensures (DirectoryStore.save type) store (fun _ after => after.InStep) InStep := by
  unfold Outcome.Ensures
  rw [save_run]
  exact hstep.replace (dropLast_typeFile_mem _ _) (hstep.linksKnown.save type)
    fun _ hrecords hready => replaceType_eq_ok hrecords hready type

theorem saveCategory (hstep : store.InStep) (category : Category) :
    Outcome.Ensures (DirectoryStore.saveCategory category) store (fun _ after => after.InStep)
      InStep := by
  unfold Outcome.Ensures
  rw [saveCategory_run]
  exact hstep.replace (dropLast_categoryFile_mem _ _) (hstep.linksKnown.saveCategory category)
    fun _ hrecords hready => replaceCategory_eq_ok hrecords hready category

theorem link (hstep : store.InStep) (id : TypeId) (categories : List CategoryId) :
    Outcome.Ensures (DirectoryStore.link id categories) store (fun _ after => after.InStep)
      InStep := by
  unfold Outcome.Ensures
  rw [link_run]
  cases hlink : store.catalog.link id categories with
  | error error => exact hstep
  | ok linked =>
      by_cases hsize : linked.links.size = store.catalog.links.size
      · simp only [hsize, if_true]
        exact hstep
      · have hrecord : ∀ disk, disk.Records store.format store.root store.catalog →
            disk.Ready store.root → ∃ after, (replaceText (store.root.names ++ [linksFile])
                (store.format.writeLinks linked.links.elements)).run disk = .ok () after ∧
              after.Records store.format store.root linked ∧ after.Ready store.root := by
          intro disk hrecords hready
          have hwritten := replaceLinks_eq_ok hrecords hready (Catalog.links_ne_nil hlink hsize)
          rw [Catalog.with_links_of_link hlink] at hwritten
          exact hwritten
        simp only [hsize, if_false]
        exact hstep.replace (dropLast_linksFile_mem _) (hstep.linksKnown.link hlink) hrecord

end InStep

/-- A store that was opened where nothing was is in step with its files. -/
theorem inStep_of_vacant {format : DefinitionFormat} {root : Path} {defaults : List Category}
    {disk after : Disk} {opened : DirectoryStore} (hvacant : disk.Vacant root.names)
    (hdefaults : ∀ category ∈ defaults,
      format.readCategory (format.writeCategory category) = .ok category)
    (hopen : (openAt format root defaults).run disk = .ok opened after) : opened.InStep := by
  have halike : Disk.Alike root disk {disk with faults := []} := rfl
  have hvacant' : Disk.Vacant {disk with faults := []} root.names :=
    ⟨hvacant.unblocked, hvacant.empty⟩
  obtain ⟨opened', written, hopen', hcatalog, _, hdisk⟩ := halike.openAt_eq_ok rfl hopen
  obtain ⟨_, hknown, _, hrun, hrecords, hready⟩ :=
    openAt_of_vacant hvacant' rfl hdefaults
  rw [hrun] at hopen'
  cases hopen'
  obtain ⟨_, _, _, _, _, _, _, _, rfl⟩ := openAt_eq_ok.mp hopen
  cases hcatalog
  exact ⟨hknown, written, hdisk, hrecords, hready⟩

/-- A store in step with its files is opened again as it is. -/
theorem InStep.catalog_of_openAt {faults : List (Option ReplaceFault)} {opened : DirectoryStore}
    {after : Disk} (hstep : store.InStep) (hreads : store.catalog.ReadsBack store.format)
    (hopen : (openAt store.format store.root []).run {store.disk with faults} =
      .ok opened after) : opened.catalog = store.catalog := by
  obtain ⟨disk, halike, hrecords, hready⟩ := hstep.records
  have halike' : Disk.Alike store.root {store.disk with faults} disk := halike
  obtain ⟨opened', _, hopen', hcatalog, _⟩ := halike'.openAt_eq_ok hrecords.faultless hopen
  -- No default categories are added when it is opened again.
  have hreads' : (store.catalog.seed []).ReadsBack store.format := hreads
  obtain ⟨_, hagain, _⟩ := openAt_of_records hrecords hreads' hstep.linksKnown
  rw [hagain] at hopen'
  cases hopen'
  exact hcatalog.symm

end DirectoryStore

namespace AnyStore

/-- Whether the files of a store, if it has files, say what it holds. -/
def InStep : AnyStore → Prop
  | .memory _ => True
  | .directory store => store.InStep

/-- A store as it begins where nothing was yet, with default categories that read back if
it has files. -/
def BeginsEmpty : AnyStore → Prop
  | .memory _ => True
  | .directory store => ∃ defaults disk after, disk.Vacant store.root.names ∧
      (∀ category ∈ defaults,
        store.format.readCategory (store.format.writeCategory category) = .ok category) ∧
      (DirectoryStore.openAt store.format store.root defaults).run disk = .ok store after

theorem inStep_of_beginsEmpty {store : AnyStore} (hbegins : store.BeginsEmpty) :
    store.InStep := by
  cases store with
  | memory inner => exact trivial
  | directory inner =>
      obtain ⟨defaults, disk, after, hvacant, hdefaults, hopen⟩ := hbegins
      exact DirectoryStore.inStep_of_vacant hvacant hdefaults hopen

private theorem keeps_act {memory : StoreM MemoryStore Unit}
    {directory : StoreM DirectoryStore Unit}
    (hdirectory : Outcome.Keeps DirectoryStore.InStep directory) :
    Outcome.Keeps InStep (act memory directory) := by
  intro store hstep
  cases store with
  | memory inner =>
      unfold Outcome.Ensures
      rw [act_run_memory]
      cases memory.run inner <;> exact trivial
  | directory inner =>
      have hinner := hdirectory inner hstep
      unfold Outcome.Ensures at hinner ⊢
      rw [act_run_directory]
      cases hrun : directory.run inner with
      | ok _ after =>
          rw [hrun] at hinner
          exact hinner
      | error error after =>
          rw [hrun] at hinner
          exact hinner

theorem keeps_save (type : WorkItemType) :
    Outcome.Keeps InStep (TypeStore.save type) :=
  keeps_act fun _ hstep => hstep.save type

theorem keeps_saveCategory (category : Category) :
    Outcome.Keeps InStep (TypeStore.saveCategory category) :=
  keeps_act fun _ hstep => hstep.saveCategory category

theorem keeps_link (id : TypeId) (categories : List CategoryId) :
    Outcome.Keeps InStep (TypeStore.link id categories) :=
  keeps_act fun _ hstep => hstep.link id categories

end AnyStore

end WorkSchema

import ContractTemplates.Template.SourceFile

namespace ContractTemplates

/-!
# Taking templates over from files

A sync takes the templates of a directory over into the store, file by file. A
new template gets its first version. A template whose source or schema differs
from the stored one gets a further version, and other differences change the row
alone. If anything stops a sync, the store stays as it was.

Changed rows are kept in hand and written together, at the latest at the end.
They are written earlier when a template has to be looked up that is not in
hand, and writing is where a row that cannot be stored is noticed. In hand are
the changed templates, the one looked up last, and the one created last once it
has been written.
-/

/-- Why a sync stops. -/
inductive SyncFault where
  | source (fault : SourceFault)
  | store (fault : StoreFault)
  deriving DecidableEq, Repr

/-- The ids of the templates that a sync created and changed, in order. -/
structure SyncReport where
  created : List Text
  updated : List Text
  deriving DecidableEq, Repr

/-- A sync on its way. -/
structure SyncState where
  /-- The store with all changes so far. -/
  store : Store
  report : SyncReport
  /-- Stored templates that were changed since the last writing. -/
  changed : List Text
  /-- Templates that were created since the last writing. -/
  pending : List Text
  /-- The template that was looked up last, if it was found. -/
  lookedUp : Option Text
  /-- The template that was created last. -/
  latest : Option Text
  deriving DecidableEq, Repr

namespace SyncState

/-- The start of a sync. -/
def start (store : Store) : SyncState where
  store
  report := ⟨[], []⟩
  changed := []
  pending := []
  lookedUp := none
  latest := none

/-- Whether a template is in hand. -/
def hasInHand (state : SyncState) (id : Text) : Bool :=
  id ∈ state.changed || state.lookedUp = some id ||
    (state.latest = some id && id ∉ state.pending)

/-- Why the rows of some templates cannot be written: the fault of the first such row. -/
def writeFault? (store : Store) (ids : List Text) : Option StoreFault :=
  ids.findSome? fun id => (store.find? id).bind TemplateRow.fault?

/-- Ids in their order, with one more in its place. -/
def placed (id : Text) : List Text → List Text
  | [] => [id]
  | other :: rest =>
      if Text.le id other then id :: other :: rest else other :: placed id rest

/--
The templates whose rows are still to be written, in the order of writing:
changed ones by their ids, and then new ones as they were created.
-/
def unwritten (state : SyncState) : List Text :=
  state.changed.foldr placed [] ++ state.pending.reverse

/-- Writes all rows that are kept in hand. -/
def write (state : SyncState) : Except StoreFault SyncState :=
  match writeFault? state.store state.unwritten with
  | none => .ok { state with changed := [], pending := [] }
  | some fault => .error fault

/-- Looks a template up. -/
def lookUp (state : SyncState) (id : Text) :
    Except StoreFault (Option TemplateRow × SyncState) := do
  let written ← if state.hasInHand id then .ok state else state.write
  let found := written.store.find? id
  .ok (found, { written with lookedUp := found.map TemplateRow.id })

/-- Creates a template in its first version. -/
def create (template : SourceTemplate) (state : SyncState) : SyncState :=
  let manifest := template.manifest
  let row : TemplateRow := {
    id := manifest.id
    title := manifest.title
    description := manifest.description
    price := manifest.price
    source := template.body
    schema := template.schema
    version := 1
    isPublished := manifest.published }
  let version := VersionRow.ofTemplate row "Initial version".toList
  { state with
    store := (state.store.addTemplate row).addVersion version
    report := {
      state.report with created := state.report.created ++ [manifest.id] }
    pending := manifest.id :: state.pending
    latest := some manifest.id }

/-- Whether the source or the schema of a template differs from the stored one. -/
def contentDiffers (template : SourceTemplate) (row : TemplateRow) : Bool :=
  row.source ≠ template.body || row.schema ≠ template.schema

/-- The row as a file describes it; new content gets the next version. -/
def renewed (template : SourceTemplate) (row : TemplateRow) : TemplateRow :=
  let manifest := template.manifest
  { row with
    title := manifest.title
    description := manifest.description
    price := manifest.price
    isPublished := manifest.published
    source := template.body
    schema := template.schema
    version :=
      if contentDiffers template row then row.version + 1 else row.version }

/-- Changes a stored template to what a file describes. -/
def change (template : SourceTemplate) (row : TemplateRow)
    (state : SyncState) : SyncState :=
  let next := renewed template row
  if next = row then
    state
  else
    let updated := state.store.update next
    { state with
      store :=
        if contentDiffers template row then
          updated.addVersion
            (VersionRow.ofTemplate next "Synced from disk".toList)
        else
          updated
      report := { state.report with updated := state.report.updated ++ [row.id] }
      changed := row.id :: state.changed }

/-- Takes a template over. -/
def take (template : SourceTemplate) (state : SyncState) :
    Except StoreFault SyncState := do
  let (found, looked) ← state.lookUp template.manifest.id
  match found with
  | some row => .ok (looked.change template row)
  | none => .ok (looked.create template)

/-- Takes over what a file describes, if it describes a template. -/
def takeFile (state : SyncState) (entry : FileEntry) :
    Except SyncFault SyncState :=
  match SourceFile.read entry with
  | .error fault => .error (.source fault)
  | .ok none => .ok state
  | .ok (some template) => (state.take template).mapError .store

/-- Takes over what files describe, in order. -/
def takeFiles (state : SyncState) : List FileEntry → Except SyncFault SyncState
  | [] => .ok state
  | entry :: rest => do
      let next ← state.takeFile entry
      next.takeFiles rest

/-- Ends a sync; what is still in hand is written. -/
def finish (state : SyncState) : Except SyncFault (SyncReport × Store) := do
  let written ← state.write.mapError SyncFault.store
  .ok (written.report, written.store)

end SyncState

namespace Store

/-- Takes the templates of files over, in order. -/
def syncEntries (entries : List FileEntry) (store : Store) :
    Except SyncFault (SyncReport × Store) := do
  let state ← (SyncState.start store).takeFiles entries
  state.finish

/-- Takes the templates of a directory over. -/
def sync (directory : Location) (files : Files) (store : Store) :
    Except SyncFault (SyncReport × Store) :=
  store.syncEntries (SourceFile.all directory files)

end Store

end ContractTemplates

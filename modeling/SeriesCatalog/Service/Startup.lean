import SeriesCatalog.Config.Load
import SeriesCatalog.Service.Basic
import SeriesCatalog.Store.Records

/-!
# Starting the service

The store is loaded from the file that the settings name, or starts empty.  A file that
cannot be loaded to its end is no store.
-/

namespace SeriesCatalog
namespace Startup

/-- The target of records about loading. -/
def loadTarget : String := "seriesquery::store::ndjson"

/-- The target of records about a loaded store. -/
def storeTarget : String := "seriesquery::store::memory"

/-- The target of records about the program. -/
def programTarget : String := "seriesquery"

/-- How many records are loaded between two reports. -/
def reportInterval : Nat := 10000

/-- The reports while records are loaded. -/
def progressRecords (inserted : Nat) : List LogRecord :=
  (List.range (inserted / reportInterval)).map fun i =>
    ⟨.info, loadTarget, s!"loaded {(i + 1) * reportInterval} records (ndjson)"⟩

/-- The failure to load a file. -/
def connectError (path complaint : String) : StoreError :=
  .connect (path ++ ": " ++ complaint)

/-- The store in a file, with the records about it. -/
def openStore (fresh : Nat → ObjectId) (t : FileTree) (path : String) :
    Except StoreError Store × List LogRecord :=
  match t.contents path with
  | .closed c => (.error (connectError path c), [])
  | .unreadable c => (.error (connectError path (StoreError.io c).message), [])
  | .octets l =>
      let loaded := Store.empty.load fresh l
      let reports := progressRecords loaded.inserted
      match loaded.failure? with
      | some e => (.error (connectError path e.message), reports)
      | none =>
          let text := s!"store loaded {loaded.inserted} documents from {path}"
          (.ok loaded.store, reports ++ [⟨.info, storeTarget, text⟩])

/-- The store that settings ask for, with the records about it. -/
def store (fresh : Nat → ObjectId) (t : FileTree) (s : Settings) :
    Except StoreError Store × List LogRecord :=
  match s.dataPath? with
  | some path => openStore fresh t path
  | none =>
      (.ok .empty,
        [⟨.warn, programTarget, "no data_path configured; starting with an empty store"⟩])

/-- The service on a store, as settings ask for. -/
def service (s : Settings) (store : Store) : Service :=
  ⟨store.executor, s.policy⟩

end Startup
end SeriesCatalog

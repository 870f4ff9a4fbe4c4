import AirQuality.Json.Reader
import AirQuality.Json.Writer
import AirQuality.Store.Basic

/-!
# Backups

The measurements of a store that are not older than the retention period, as a JSON document with
the oldest one first, and back again. Restoring is all or nothing: a store is changed only after
every entry of the document has been checked.

* `Backup.document`: the document of some measurements
* `Backup.parse`, `Backup.entries`: the value of a document and its entries
* `Backup.write`, `Backup.restore`: from a store to a file, and from a file to a store
-/

namespace AirQuality

open Time (Moment)

/-- A document that has been written, and the number of its records. -/
structure Backup where
  count : Nat
  text : String
deriving Repr, DecidableEq

namespace Backup

variable {σ : Type}

/-- The document of some measurements, in their order. -/
def document (ms : List Measurement) : Backup :=
  ⟨ms.length, (Json.arr (ms.map Measurement.toJson)).indented 0⟩

/-- Whether the texts of some measurements can be written to a file. -/
def writable (ms : List Measurement) : Except Fault Unit :=
  if ms.all fun m => m.toJson.isWellFormed then .ok () else .error .unwritable

/-- Writes the measurements of the last days before a moment to a file; `file` says what becomes of
a text that is written to it. -/
def write (store : Store σ) (file : String → Except Fault Unit) (days : Int) (stop : Moment) :
    Act σ Backup :=
  Act.reporting "Error exporting data" do
    let start ← Act.ofExcept (orFault (stop.shift? (-(days * Time.dayMicros))) .outOfRange)
    let ms ← store.between start stop
    let backup := document ms.reverse
    Act.ofExcept (file backup.text)
    -- The file is opened before it turns out that a text cannot be written.
    Act.ofExcept (writable ms)
    Act.info ("Exported " ++ toString backup.count ++ " records to <file>")
    return backup

/-- The value of a document. -/
def parse (text : String) : Except Fault Json :=
  match Json.read text with
  | .ok v => .ok v
  | .error .malformed => .error .notJson
  | .error .integerTooLong => .error .badValue
  | .error .tooDeep => .error .tooDeep

/-- The entries of a value: the items of an array, the keys of an object, or the characters of a
string. -/
def entries : Json → Except Fault (List Json)
  | .arr items => .ok items
  | .obj pairs => .ok (pairs.map fun (k, _) => .str k)
  | .str t => .ok (t.points.map fun p => .str ⟨[p]⟩)
  | _ => .error .wrongKind

/-- Restores the measurements of a file, and tells how many there are. Measurements that do not say
when they were created are created now. -/
def restore (store : Store σ) (now : Moment) (file : Except Fault String) : Act σ Nat :=
  Act.reporting "Error importing data" do
    let text ← Act.ofExcept file
    let found ← Act.ofExcept (parse text >>= entries)
    Act.info ("Loaded " ++ toString found.length ++ " records from <file>")
    -- All entries are checked before the store is touched.
    let ms ← Act.ofExcept (Measurement.ofJsons now found)
    let saved ← store.saveAll ms
    Act.info ("Imported " ++ toString saved.length ++ " measurements")
    return saved.length

end Backup

end AirQuality

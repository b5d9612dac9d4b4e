import Logbook.Json.Loaded
import Logbook.Log.Record

/-!
# Payloads as they are read

A payload that comes as JSON text may have halves of surrogate pairs in its texts. Of what a record
keeps as a text it says by itself whether it holds a half, and then no column of texts takes it
(`LoadedFields.isUnwritable`). A column of JSON takes every value; the halves in it are written as
escapes, and here the replacement character stands for them.
-/

namespace Logbook

/-- The fields of a payload that a record shows as texts, whatever was sent. -/
def displayedFields : List String := ["level", "environment", "projectId", "message"]

namespace LoadedFields

/-- The value of a field, `null` where it is missing. -/
def get (fs : LoadedFields) (name : String) : Loaded :=
  (fs.lookup (Loaded.ofText name)).getD .null

/-- Is the value of a field a text with a half in it? -/
def isTorn (fs : LoadedFields) (name : String) : Bool :=
  match get fs name with
  | .str s => Loaded.isTorn s
  | _ => false

/-- A value of a field of a payload. One that is no text but will be shown as one is shown at once if
there is a half in it, for then that half is escaped. -/
def value (name : List Point) (v : Loaded) : Json :=
  match v with
  | .str s => .str (Loaded.mendedText s)
  | v =>
    if !v.isWhole && displayedFields.any (Loaded.ofText · == name) then .str (String.ofList v.shown)
    else v.mended

/-- The fields of a payload as a record takes them. -/
def payload (fs : LoadedFields) : Fields :=
  fs.map fun (k, v) => (Loaded.mendedText k, value k v)

/-- Does the detail text of a payload hold a half? If none is given, it is that of the details. -/
def tearsDetails (fs : LoadedFields) : Bool :=
  if ((get fs "detailString").mended).truthy then isTorn fs "detailString"
  else !(get fs "details").isWhole

/-- Does some text that a record keeps of a payload hold a half? -/
def isUnwritable (fs : LoadedFields) : Bool :=
  (displayedFields ++ ["hostname", "rawStackTrace"]).any (isTorn fs) || tearsDetails fs

end LoadedFields

end Logbook

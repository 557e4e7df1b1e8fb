import NodeDesk.Calendar.Style
import NodeDesk.Json.Record
import NodeDesk.Json.Value
/-!
# Codec — instants and date styles in documents

An instant is a string.  A style is its name, or the name `custom` before the text of its directives.
-/
namespace NodeDesk
namespace Calendar

def Instant.toJson (t : Instant) : Json.Value := .string (String.ofList (Stamp.write t))

def Instant.reader : Json.Reader Instant := fun cs => do
  let (s, r) ← Json.stringAs "an RFC 3339 formatted date and time string" cs
  match Stamp.read s.toList with
  | .ok t => .ok (t, r)
  | .error f => .error (.badInstant f)

namespace DateStyle

def toJson : DateStyle → Json.Value
  | .iso => .string "iso"
  | .enUs => .string "en_us"
  | .enGb => .string "en_gb"
  | .custom p => .object [("custom", .string p)]

def reader : Json.Reader DateStyle :=
  Json.choice [.bare "iso" .iso, .bare "en_us" .enUs, .bare "en_gb" .enGb,
    .holding "custom" fun cs => (Json.string cs).map fun p => (.custom p.1, p.2)]

end DateStyle
end Calendar
end NodeDesk

import NodeDesk.Calendar.Codec
import NodeDesk.Config.Basic
import NodeDesk.Files
import NodeDesk.Problem
/-!
# Codec — setups in documents

A setup is written with all of its settings in order.  It may be read from a part of them, the others keeping their
usual values, and is checked once all are read.
-/
namespace NodeDesk
namespace Config

def toJson (c : Config) : Json.Value :=
  .object [("host", .string c.host), ("port", .natural c.serverPort),
    ("cors_origins", .list (c.corsOrigins.map .string)), ("per_page", .natural c.perPage),
    ("show_title", .boolean c.showTitle), ("date_style", c.dateStyle.toJson),
    ("node_url_prefix", .string c.links.nodeBase), ("user_url_prefix", .string c.links.userBase),
    ("csrf_secret", .optional c.secret), ("csrf_max_age_secs", .number (.integer c.maxAge)),
    ("fixture", .optional c.fixture)]

def shape : Json.Shape Config where
  name := "struct AdminConfig"
  blank := {}
  fields :=
    [Json.field "host" false Json.string fun s c => { c with host := s },
      Json.field "port" false (Json.natural 65535 "u16") fun n c => { c with serverPort := n },
      Json.field "cors_origins" false (Json.list Json.string) fun ss c => { c with corsOrigins := ss },
      Json.field "per_page" false (Json.natural maxWord "usize") fun n c => { c with perPage := n },
      Json.field "show_title" false Json.boolean fun b c => { c with showTitle := b },
      Json.field "date_style" false Calendar.DateStyle.reader fun s c => { c with dateStyle := s },
      Json.field "node_url_prefix" false Json.string fun s c => { c with links := { c.links with nodeBase := s } },
      Json.field "user_url_prefix" false Json.string fun s c => { c with links := { c.links with userBase := s } },
      Json.field "csrf_secret" false (Json.optional Json.string) fun s c => { c with secret := s },
      Json.field "csrf_max_age_secs" false (Json.integer (-(maxSigned : Int) - 1) maxSigned "i64")
        fun i c => { c with maxAge := i },
      Json.field "fixture" false (Json.optional (Json.stringAs "path string")) fun s c => { c with fixture := s }]

/-- Reads a setup, without checking it. -/
def reader : Json.Reader Config := shape.read

/-- The setup in a text, if it is accepted. -/
def ofText (cs : List Char) : Except Problem Config :=
  match Json.document reader cs with
  | .error f => .error (.configuration ("Invalid config JSON: " ++ f.message))
  | .ok c =>
    match c.fault? with
    | some f => .error (.configuration f.message)
    | none => .ok c

def load (path : String) : Reading (Except Problem Config) := do
  match ← readText path with
  | .error f => return .error (.configuration ("Failed to read config: " ++ f.message))
  | .ok cs => return ofText cs

end Config
end NodeDesk

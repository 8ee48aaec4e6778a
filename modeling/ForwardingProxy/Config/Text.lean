import ForwardingProxy.Config.Basic
import ForwardingProxy.Json.Record

/-!
Contract: settings as a JSON text.

Owns: the shape of a settings file, `Config.ofValue` and `Config.toValue` between settings and JSON
values, and `Config.read` and `Config.text` between settings and texts.

A field that is missing takes its standard value; an empty list of directories is not written.
-/

namespace ForwardingProxy.Config

/-- The shape of a settings file. -/
def shape : Json.Shape :=
  .record "struct Config" [
    ("runtime_path", .text "a string"),
    ("package", .text "a string"),
    ("file_name", .text "a string"),
    ("markers", .record "struct MarkerConfig" [
      ("dispatch_function", .text "a string"),
      ("handler_interface", .text "a string")]),
    ("source_dirs", .list (.text "path string"))]

/-- The text under a key, or the given one. -/
def textAt (value : Json.Value) (key standard : String) : String :=
  ((value.get? key).bind Json.Value.text?).getD standard

/-- Markers from a JSON value of their shape. -/
def markersOfValue (value : Json.Value) : Markers where
  dispatchFunction := textAt value "dispatch_function" Markers.standard.dispatchFunction
  handlerInterface := textAt value "handler_interface" Markers.standard.handlerInterface

/-- Settings from a JSON value of their shape. -/
def ofValue (value : Json.Value) : Config where
  runtimePath := textAt value "runtime_path" standard.runtimePath
  package := textAt value "package" standard.package
  fileName := textAt value "file_name" standard.fileName
  markers := ((value.get? "markers").map markersOfValue).getD standard.markers
  sourceDirs := ((value.get? "source_dirs").bind Json.Value.texts?).getD standard.sourceDirs

/-- Markers as a JSON value. -/
def markersToValue (markers : Markers) : Json.Value :=
  .object [
    ("dispatch_function", .text markers.dispatchFunction),
    ("handler_interface", .text markers.handlerInterface)]

/-- Settings as a JSON value. -/
def toValue (config : Config) : Json.Value :=
  .object ([
    ("runtime_path", .text config.runtimePath),
    ("package", .text config.package),
    ("file_name", .text config.fileName),
    ("markers", markersToValue config.markers)]
  ++ if config.sourceDirs.isEmpty then []
      else [("source_dirs", .list (config.sourceDirs.map .text))])

/-- The settings that a text writes. -/
def read (text : String) : Except Json.ReadError Config :=
  (Json.read shape text).map ofValue

/-- The text that writes the settings. -/
def text (config : Config) : String :=
  config.toValue.pretty

end ForwardingProxy.Config

import TranscodeConsole.Json.Record

/-!
The format analysis of an uploaded file.
-/
namespace TranscodeConsole

open Json

structure FormatAnalysis where
  streams : Int
  programs : Int
  name : String
  longName : String
  start : Double
  duration : Double
  size : Int
  bitRate : Double
  score : Int
  deriving DecidableEq, Repr

namespace FormatAnalysis

def zero : Double := ⟨0⟩

def shape : Shape :=
  { name := "FormatAnalysis"
    fields := [
      .defaulted "nb_streams" readI16,
      .defaulted "nb_programs" readI16,
      .defaulted "format_name" readText,
      .defaulted "format_long_name" readText,
      .defaulted "start_time" readDouble,
      .defaulted "duration" readDouble,
      .defaulted "size" readI64,
      .defaulted "bit_rate" readDouble,
      .defaulted "probe_score" readI32] }

def read : Reader FormatAnalysis := fun t => do
  let found ← shape.fieldsOf t
  return {
    streams := ← found.getD "nb_streams" readI16 0
    programs := ← found.getD "nb_programs" readI16 0
    name := ← found.getD "format_name" readText ""
    longName := ← found.getD "format_long_name" readText ""
    start := ← found.getD "start_time" readDouble zero
    duration := ← found.getD "duration" readDouble zero
    size := ← found.getD "size" readI64 0
    bitRate := ← found.getD "bit_rate" readDouble zero
    score := ← found.getD "probe_score" readI32 0 }

end FormatAnalysis

structure FileFormat where
  id : Uuid
  analysis : FormatAnalysis
  deriving DecidableEq, Repr

namespace FileFormat

def shape : Shape :=
  { name := "FileFormatInfo"
    fields := [
      .required "id" readUuid,
      .required "formatAnalysis" FormatAnalysis.read] }

def read : Reader FileFormat := fun t => do
  let found ← shape.fieldsOf t
  return {
    id := ← found.get "id" readUuid
    analysis := ← found.get "formatAnalysis" FormatAnalysis.read }

end FileFormat
end TranscodeConsole

import Quorate.Binary64.Shortest
import Quorate.Metrics.Basic

/-!
The text form in which a metrics board is collected: help, type and samples, line by line.
-/

namespace Quorate.Metrics.Exposition

def counterFamily (counter : Counter) : String := "hivesync_" ++ counter.name ++ "_total"

def histogramFamily : String := "hivesync_write_duration_ms"

def header (family help kind : String) : List String :=
  ["# HELP " ++ family ++ " " ++ help, "# TYPE " ++ family ++ " " ++ kind]

def sample (name value : String) : String := name ++ " " ++ value

def counterLines (board : Board) (counter : Counter) : List String :=
  header (counterFamily counter) counter.help "counter"
    ++ [sample (counterFamily counter) (Text.decimalText (board.counts counter).toNat)]

def boundaryText (boundary : Float) : String :=
  if Binary64.magnitude boundary = Binary64.infiniteMagnitude then "+Inf"
  else Binary64.text boundary

def bucketLine (bucket : Float × UInt64) : String :=
  sample (histogramFamily ++ "_bucket" ++ Text.braced ("le=\"" ++ boundaryText bucket.1 ++ "\""))
    (Text.decimalText bucket.2.toNat)

def histogramLines (histogram : Histogram) : List String :=
  header histogramFamily "Time from submission to verdict" "histogram"
    ++ histogram.buckets.map bucketLine
    ++ [sample (histogramFamily ++ "_sum") (Binary64.text histogram.sum),
        sample (histogramFamily ++ "_count") (Text.decimalText histogram.count.toNat)]

def lines (board : Board) : List String :=
  Counter.all.flatMap (counterLines board) ++ histogramLines board.writeTimes

/-- Every line has its end, the last one too. -/
def text (board : Board) : String :=
  String.ofList ((lines board).flatMap fun line => line.toList ++ ['\n'])

end Quorate.Metrics.Exposition

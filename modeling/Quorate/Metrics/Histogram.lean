import Quorate.Binary64.Order

/-!
Histograms: every observation falls into the slot of the first boundary that is at least as great,
or into a last slot beyond all boundaries. The buckets that are shown count cumulatively.
-/

namespace Quorate.Metrics

structure Histogram where
  boundaries : List Float
  /-- One count for every boundary and one for what lies beyond them. -/
  slots : List UInt64
  thousandths : UInt64 := 0
  count : UInt64 := 0

namespace Histogram

def defaultBoundaries : List Float :=
  [1.0, 5.0, 10.0, 25.0, 50.0, 100.0, 250.0, 500.0, 1000.0, 2500.0, 5000.0]

def withBoundaries (boundaries : List Float) : Histogram :=
  { boundaries := boundaries, slots := List.replicate (boundaries.length + 1) 0 }

def empty : Histogram := withBoundaries defaultBoundaries

def slotOf (boundaries : List Float) (value : Float) : Nat :=
  boundaries.findIdx fun boundary => Binary64.atMost value boundary

/-- Thousandths of a value, cut off below and at both ends of the range of a word. -/
def thousandthsOf (value : Float) : UInt64 := (value * 1000.0).toUInt64

def observe (histogram : Histogram) (value : Float) : Histogram :=
  { histogram with
    slots := histogram.slots.modify (slotOf histogram.boundaries value) (· + 1)
    thousandths := histogram.thousandths + thousandthsOf value
    count := histogram.count + 1 }

def cumulate (total : UInt64) : List UInt64 → List UInt64
  | [] => []
  | count :: rest => (total + count) :: cumulate (total + count) rest

def infinity : Float := Float.ofBits 0x7FF0000000000000

/-- The boundaries with the numbers of observations up to them; infinity comes last. -/
def buckets (histogram : Histogram) : List (Float × UInt64) :=
  (histogram.boundaries ++ [infinity]).zip (cumulate 0 histogram.slots)

def sum (histogram : Histogram) : Float := histogram.thousandths.toFloat / 1000.0

end Histogram
end Quorate.Metrics

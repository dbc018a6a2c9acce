import Quorate.Proofs.Metrics.Histogram
import Quorate.Proofs.Metrics.Reading

/-!
The text form of the metrics tells what they are. Whoever reads it line by line finds for every
counter a help, a type and a single sample with its number, and for the histogram the counts of all
buckets in ascending order, which are the ones that the board has.
-/

namespace Quorate.Metrics

open Line Exposition

/-! ### The lines of a board -/

namespace Exposition

def counterMeanings (board : Board) (counter : Counter) : List Line :=
  [.help (counterFamily counter) counter.help, .kind (counterFamily counter) "counter",
    .sample (counterFamily counter) none (Text.decimalText (board.counts counter).toNat)]

def bucketMeaning (bucket : Float × UInt64) : Line :=
  .sample (histogramFamily ++ "_bucket") (some (boundaryText bucket.1))
    (Text.decimalText bucket.2.toNat)

def histogramMeanings (histogram : Histogram) : List Line :=
  [.help histogramFamily "Time from submission to verdict", .kind histogramFamily "histogram"] ++
    histogram.buckets.map bucketMeaning ++
    [.sample (histogramFamily ++ "_sum") none (Binary64.text histogram.sum),
      .sample (histogramFamily ++ "_count") none (Text.decimalText histogram.count.toNat)]

/-- What the lines of a board are read as. -/
def meanings (board : Board) : List Line :=
  Counter.all.flatMap (counterMeanings board) ++ histogramMeanings board.writeTimes

private theorem isName_counterFamily (counter : Counter) : IsName (counterFamily counter) := by
  cases counter <;> decide +kernel

private theorem isName_histogramFamily :
    IsName histogramFamily ∧ IsName (histogramFamily ++ "_bucket") ∧
      IsName (histogramFamily ++ "_sum") ∧ IsName (histogramFamily ++ "_count") := by
  decide +kernel

private theorem newline_not_mem_of_isName {name : String} (isName : IsName name) :
    '\n' ∉ name.toList :=
  fun present => (isName.1 '\n' present).2 rfl

private theorem newline_not_mem_of_figures {text : String} (figures : Figures text) :
    '\n' ∉ text.toList :=
  figures.not_mem rfl

private theorem newline_not_mem_help (counter : Counter) : '\n' ∉ counter.help.toList := by
  cases counter <;> decide +kernel

private theorem reads_header {family help kind : String} (isName : IsName family)
    (helps : '\n' ∉ help.toList) (kinds : '\n' ∉ kind.toList) :
    List.Forall₂ Reads (header family help kind) [.help family help, .kind family kind] := by
  have named := newline_not_mem_of_isName isName
  refine .cons ⟨?_, read_help isName⟩ (.cons ⟨?_, read_kind isName⟩ .nil)
  · simp [String.toList_append, named, helps]
  · simp [String.toList_append, named, kinds]

private theorem reads_sample {name value : String} (isName : IsName name)
    (figures : Figures value) : Reads (sample name value) (.sample name none value) := by
  refine ⟨?_, read_sample isName value⟩
  simp [sample, String.toList_append, newline_not_mem_of_isName isName,
    newline_not_mem_of_figures figures]

private theorem figures_boundaryText (boundary : Float) : Figures (boundaryText boundary) := by
  unfold boundaryText
  split
  · exact figures_of_all (by decide)
  · exact figures_text boundary

private theorem reads_bucketLine (bucket : Float × UInt64) :
    Reads (bucketLine bucket) (bucketMeaning bucket) := by
  have isName := isName_histogramFamily.2.1
  have bound := figures_boundaryText bucket.1
  have number := figures_decimalText bucket.2.toNat
  refine ⟨?_, read_bound isName bound _⟩
  simp [bucketLine, sample, String.toList_append, histogramFamily,
    newline_not_mem_of_figures bound, newline_not_mem_of_figures number]

private theorem reads_counterLines (board : Board) (counter : Counter) :
    List.Forall₂ Reads (counterLines board counter) (counterMeanings board counter) := by
  have isName := isName_counterFamily counter
  refine List.rel_append (reads_header isName (newline_not_mem_help counter) (by decide)) ?_
  exact .cons (reads_sample isName (figures_decimalText _)) .nil

private theorem reads_histogramLines (histogram : Histogram) :
    List.Forall₂ Reads (histogramLines histogram) (histogramMeanings histogram) := by
  obtain ⟨family, -, sum, count⟩ := isName_histogramFamily
  refine List.rel_append (List.rel_append (reads_header family (by decide) (by decide)) ?_) ?_
  · rw [List.forall₂_map_left_iff, List.forall₂_map_right_iff, List.forall₂_same]
    exact fun bucket _ => reads_bucketLine bucket
  · exact .cons (reads_sample sum (figures_text _))
      (.cons (reads_sample count (figures_decimalText _)) .nil)

private theorem reads_lines (board : Board) :
    List.Forall₂ Reads (lines board) (meanings board) := by
  refine List.rel_append ?_ (reads_histogramLines board.writeTimes)
  generalize Counter.all = counters
  induction counters with
  | nil => exact .nil
  | cons counter counters ih =>
      rw [List.flatMap_cons, List.flatMap_cons]
      exact List.rel_append (reads_counterLines board counter) ih

/-- Whatever a board holds, its text is read line by line as what it was written for. -/
theorem readAll_text (board : Board) : readAll (text board) = some (meanings board) :=
  readAll_of_reads (reads_lines board)

/-! ### Samples by name -/

private theorem counterFamily_injective : Function.Injective counterFamily := by
  have distinct : (Counter.all.map counterFamily).Nodup := by decide +kernel
  intro counter other same
  exact List.inj_on_of_nodup_map distinct (Counter.mem_all counter) (Counter.mem_all other) same

private theorem counterFamily_ne (counter : Counter) :
    counterFamily counter ≠ histogramFamily ++ "_bucket" ∧
      counterFamily counter ≠ histogramFamily ++ "_sum" ∧
      counterFamily counter ≠ histogramFamily ++ "_count" := by
  cases counter <;> decide +kernel

private theorem samples_counterMeanings (name : String) (board : Board) (counter : Counter) :
    samples name (counterMeanings board counter) =
      if counterFamily counter = name then
        [(none, Text.decimalText (board.counts counter).toNat)]
      else [] := by
  by_cases same : counterFamily counter = name <;>
    simp only [samples, counterMeanings, List.filterMap_cons, sampleOf?, same, if_true, if_false,
      List.filterMap_nil]

private theorem samples_histogramMeanings (name : String) (histogram : Histogram) :
    samples name (histogramMeanings histogram) =
      (if histogramFamily ++ "_bucket" = name then
        histogram.buckets.map fun bucket =>
          (some (boundaryText bucket.1), Text.decimalText bucket.2.toNat)
      else []) ++
      (if histogramFamily ++ "_sum" = name then [(none, Binary64.text histogram.sum)] else []) ++
      if histogramFamily ++ "_count" = name then
        [(none, Text.decimalText histogram.count.toNat)]
      else [] := by
  have buckets : samples name (histogram.buckets.map bucketMeaning) =
      if histogramFamily ++ "_bucket" = name then
        histogram.buckets.map fun bucket =>
          (some (boundaryText bucket.1), Text.decimalText bucket.2.toNat)
      else [] := by
    by_cases same : histogramFamily ++ "_bucket" = name <;>
      simp [samples, bucketMeaning, sampleOf?, same, Function.comp_def]
  have front : samples name
      [.help histogramFamily "Time from submission to verdict", .kind histogramFamily "histogram"] =
        [] := rfl
  have back : samples name
      [.sample (histogramFamily ++ "_sum") none (Binary64.text histogram.sum),
        .sample (histogramFamily ++ "_count") none (Text.decimalText histogram.count.toNat)] =
      (if histogramFamily ++ "_sum" = name then [(none, Binary64.text histogram.sum)] else []) ++
      if histogramFamily ++ "_count" = name then
        [(none, Text.decimalText histogram.count.toNat)]
      else [] := by
    by_cases sum : histogramFamily ++ "_sum" = name <;>
      by_cases count : histogramFamily ++ "_count" = name <;>
        simp only [samples, List.filterMap_cons, sampleOf?, sum, count, if_true, if_false,
          List.filterMap_nil, List.nil_append, List.append_nil, List.singleton_append]
  rw [histogramMeanings, samples_append, samples_append, front, buckets, back, List.nil_append,
    List.append_assoc]

private theorem samples_counter (board : Board) (counter : Counter) :
    samples (counterFamily counter) (meanings board) =
      [(none, Text.decimalText (board.counts counter).toNat)] := by
  obtain ⟨bucket, sum, count⟩ := counterFamily_ne counter
  have none : samples (counterFamily counter) (histogramMeanings board.writeTimes) = [] := by
    rw [samples_histogramMeanings, if_neg bucket.symm, if_neg sum.symm, if_neg count.symm]
    rfl
  have each : ∀ counters : List Counter, samples (counterFamily counter)
      (counters.flatMap (counterMeanings board)) = counters.flatMap fun other =>
        if other = counter then [(.none, Text.decimalText (board.counts other).toNat)] else [] := by
    intro counters
    induction counters with
    | nil => rfl
    | cons other counters ih =>
        rw [List.flatMap_cons, samples_append, samples_counterMeanings, ih, List.flatMap_cons]
        simp only [counterFamily_injective.eq_iff]
  rw [meanings, samples_append, none, List.append_nil, each]
  cases counter <;> rfl

private theorem samples_histogram (board : Board) {name : String}
    (other : ∀ counter, counterFamily counter ≠ name) :
    samples name (meanings board) = samples name (histogramMeanings board.writeTimes) := by
  have none : ∀ counters : List Counter,
      samples name (counters.flatMap (counterMeanings board)) = [] := by
    intro counters
    induction counters with
    | nil => rfl
    | cons counter counters ih =>
        rw [List.flatMap_cons, samples_append, samples_counterMeanings, if_neg (other counter), ih]
        rfl
  rw [meanings, samples_append, none, List.nil_append]

private theorem samples_bucket (board : Board) :
    samples (histogramFamily ++ "_bucket") (meanings board) =
      board.writeTimes.buckets.map fun bucket =>
        (some (boundaryText bucket.1), Text.decimalText bucket.2.toNat) := by
  have sum : histogramFamily ++ "_sum" ≠ histogramFamily ++ "_bucket" := by decide
  have count : histogramFamily ++ "_count" ≠ histogramFamily ++ "_bucket" := by decide
  rw [samples_histogram board fun counter => (counterFamily_ne counter).1,
    samples_histogramMeanings, if_pos rfl, if_neg sum, if_neg count, List.append_nil,
    List.append_nil]

private theorem samples_sum (board : Board) :
    samples (histogramFamily ++ "_sum") (meanings board) =
      [(none, Binary64.text board.writeTimes.sum)] := by
  have bucket : histogramFamily ++ "_bucket" ≠ histogramFamily ++ "_sum" := by decide
  have count : histogramFamily ++ "_count" ≠ histogramFamily ++ "_sum" := by decide
  rw [samples_histogram board fun counter => (counterFamily_ne counter).2.1,
    samples_histogramMeanings, if_neg bucket, if_pos rfl, if_neg count]
  rfl

private theorem samples_count (board : Board) :
    samples (histogramFamily ++ "_count") (meanings board) =
      [(none, Text.decimalText board.writeTimes.count.toNat)] := by
  have bucket : histogramFamily ++ "_bucket" ≠ histogramFamily ++ "_count" := by decide
  have sum : histogramFamily ++ "_sum" ≠ histogramFamily ++ "_count" := by decide
  rw [samples_histogram board fun counter => (counterFamily_ne counter).2.2,
    samples_histogramMeanings, if_neg bucket, if_neg sum, if_pos rfl]
  rfl

private theorem counterMeanings_within (board : Board) (counter : Counter) :
    counterMeanings board counter <:+: meanings board := by
  have within : ∀ counters : List Counter, counter ∈ counters →
      counterMeanings board counter <:+: counters.flatMap (counterMeanings board) := by
    intro counters present
    obtain ⟨front, back, rfl⟩ := List.append_of_mem present
    refine ⟨front.flatMap (counterMeanings board), back.flatMap (counterMeanings board), ?_⟩
    rw [List.flatMap_append, List.flatMap_cons, List.append_assoc]
  exact (within _ (Counter.mem_all counter)).trans (List.prefix_append _ _).isInfix

private theorem counts_of_text_eq {board other : Board} (same : text board = text other) :
    board.counts = other.counts ∧
      board.writeTimes.buckets.map Prod.snd = other.writeTimes.buckets.map Prod.snd := by
  have meant : meanings board = meanings other := by
    have read := readAll_text board
    rw [same, readAll_text other] at read
    exact (Option.some.inj read).symm
  -- Decimal numerals of different words differ.
  constructor
  · funext counter
    have shown := samples_counter board counter
    rw [meant, samples_counter other counter] at shown
    have number := Text.decimalText_injective (Prod.mk.inj (List.cons.inj shown).1).2
    exact (UInt64.toNat_inj.mp number).symm
  · have shown := samples_bucket board
    rw [meant, samples_bucket other] at shown
    have numbers := congrArg (List.map Prod.snd) shown
    rw [List.map_map, List.map_map] at numbers
    have decode : Function.Injective fun count : UInt64 => Text.decimalText count.toNat :=
      fun count other same => UInt64.toNat_inj.mp (Text.decimalText_injective same)
    refine List.map_injective_iff.mpr decode ?_
    rw [List.map_map, List.map_map]
    exact numbers.symm

end Exposition

/-! ### Runs -/

inductive Event where
  | counted (counter : Counter)
  | decided (accepted : Bool) (elapsed : Duration)
  | timed (value : Float)

namespace Event

def apply (board : Board) : Event → Board
  | .counted counter => board.increment counter
  | .decided accepted elapsed => board.recordVerdict accepted elapsed
  | .timed value => { board with writeTimes := board.writeTimes.observe value }

def value? : Event → Option Float
  | .counted _ => none
  | .decided _ elapsed => some (floatMillis elapsed)
  | .timed value => some value

/-- Verdicts and the times that they took are only counted together. -/
def KeepsVerdicts : Event → Prop
  | .counted counter => counter ≠ .putsAccepted ∧ counter ≠ .putsExhausted
  | .decided _ _ => True
  | .timed _ => False

end Event

def Board.after (events : List Event) : Board := events.foldl Event.apply {}

def Event.decides (accepted : Bool) : Event → Bool
  | .counted _ => false
  | .decided other _ => other == accepted
  | .timed _ => false

section Runs

variable (events : List Event) (event : Event)

private theorem Board.after_concat :
    Board.after (events ++ [event]) = event.apply (Board.after events) := by
  rw [after, List.foldl_append]
  rfl

private theorem writeTimes_after :
    (Board.after events).writeTimes =
      Histogram.of Histogram.defaultBoundaries (events.filterMap Event.value?) := by
  induction events using List.reverseRecOn with
  | nil => rfl
  | append_singleton events event ih =>
      rw [Board.after_concat, List.filterMap_append]
      cases event with
      | counted counter =>
          rw [List.filterMap_cons_none rfl, List.filterMap_nil, List.append_nil, ← ih]
          rfl
      | decided accepted elapsed =>
          have observed : [Event.decided accepted elapsed].filterMap Event.value? =
              [floatMillis elapsed] := rfl
          rw [observed, Histogram.of_concat, ← ih]
          rfl
      | timed value =>
          have observed : [Event.timed value].filterMap Event.value? = [value] := rfl
          rw [observed, Histogram.of_concat, ← ih]
          rfl

private theorem shows_after :
    Histogram.Shows Histogram.defaultBoundaries (events.filterMap Event.value?)
      (Board.after events).writeTimes := by
  rw [writeTimes_after]
  exact Histogram.shows_of Histogram.ascending_defaultBoundaries _

private theorem bounds_after : (Board.after events).writeTimes.buckets.map Prod.fst =
    Histogram.defaultBoundaries ++ [Histogram.infinity] := by
  rw [(shows_after events).buckets_eq]
  simp [Function.comp_def]

private theorem getLast?_buckets_after : (Board.after events).writeTimes.buckets.getLast? =
    some (Histogram.infinity, (Board.after events).writeTimes.count) := by
  have shown := shows_after events
  rw [shown.buckets_eq, shown.total, List.getLast?_concat]

/-- The verdicts of a board are the ones of its events, and as many times have been observed. -/
structure TellsVerdicts (events : List Event) (board : Board) : Prop where
  accepted : board.counts .putsAccepted = .ofNat (events.countP (Event.decides true))
  exhausted : board.counts .putsExhausted = .ofNat (events.countP (Event.decides false))
  timed : board.writeTimes.count = board.counts .putsAccepted + board.counts .putsExhausted

variable {events event}

private theorem countP_decides_concat (accepted : Bool) :
    UInt64.ofNat ((events ++ [event]).countP (Event.decides accepted)) =
      UInt64.ofNat (events.countP (Event.decides accepted)) +
        if event.decides accepted then 1 else 0 := by
  cases decides : event.decides accepted <;> simp [List.countP_append, decides]

/-- A verdict raises one of its counts and the number of times; what else keeps the verdicts raises
none of these. -/
theorem TellsVerdicts.concat {board : Board} (tells : TellsVerdicts events board)
    (keeps : event.KeepsVerdicts) : TellsVerdicts (events ++ [event]) (event.apply board) := by
  -- It is enough to know by how much each count is raised.
  suffices raised : (event.apply board).counts .putsAccepted =
        board.counts .putsAccepted + (if event.decides true then 1 else 0) ∧
      (event.apply board).counts .putsExhausted =
        board.counts .putsExhausted + (if event.decides false then 1 else 0) ∧
      (event.apply board).writeTimes.count =
        (event.apply board).counts .putsAccepted + (event.apply board).counts .putsExhausted by
    obtain ⟨accepted, exhausted, timed⟩ := raised
    exact ⟨by rw [accepted, tells.accepted, countP_decides_concat],
      by rw [exhausted, tells.exhausted, countP_decides_concat], timed⟩
  cases event with
  | counted counter =>
      have accepted : (board.increment counter).counts .putsAccepted =
          board.counts .putsAccepted := if_neg keeps.1.symm
      have exhausted : (board.increment counter).counts .putsExhausted =
          board.counts .putsExhausted := if_neg keeps.2.symm
      refine ⟨accepted.trans (UInt64.add_zero _).symm, exhausted.trans (UInt64.add_zero _).symm, ?_⟩
      rw [Event.apply, accepted, exhausted]
      exact tells.timed
  | decided accepted elapsed =>
      have timed : (board.recordVerdict accepted elapsed).writeTimes.count =
          board.counts .putsAccepted + board.counts .putsExhausted + 1 :=
        congrArg (· + 1) tells.timed
      cases accepted with
      | true =>
          refine ⟨rfl, (UInt64.add_zero _).symm, timed.trans ?_⟩
          rw [UInt64.add_assoc, UInt64.add_comm (board.counts .putsExhausted), ← UInt64.add_assoc]
          rfl
      | false => exact ⟨(UInt64.add_zero _).symm, rfl, timed.trans (UInt64.add_assoc ..)⟩
  | timed value => exact keeps.elim

private theorem tellsVerdicts_after (keeps : ∀ event ∈ events, event.KeepsVerdicts) :
    TellsVerdicts events (Board.after events) := by
  induction events using List.reverseRecOn with
  | nil => exact ⟨rfl, rfl, rfl⟩
  | append_singleton events event ih =>
      rw [Board.after_concat]
      exact (ih fun earlier present => keeps earlier (List.mem_append_left _ present)).concat
        (keeps event (List.mem_append_right _ (List.mem_singleton.mpr rfl)))

private theorem countP_decides_le (events : List Event) :
    events.countP (Event.decides true) + events.countP (Event.decides false) ≤ events.length := by
  induction events with
  | nil => exact Nat.le_refl _
  | cons event events ih =>
      have once : ¬(event.decides true = true ∧ event.decides false = true) := by
        cases event with
        | counted counter => exact fun both => Bool.false_ne_true both.1
        | decided accepted elapsed => cases accepted <;> simp [Event.decides]
        | timed value => exact fun both => Bool.false_ne_true both.1
      rw [List.countP_cons, List.countP_cons, List.length_cons]
      cases accepted : event.decides true <;> cases exhausted : event.decides false <;>
        simp_all <;> omega

private theorem TellsVerdicts.toNat_add {board : Board} (tells : TellsVerdicts events board)
    (fits : events.length < UInt64.size) :
    (board.counts .putsAccepted).toNat + (board.counts .putsExhausted).toNat =
      board.writeTimes.count.toNat := by
  have within := Nat.lt_of_le_of_lt (countP_decides_le events) fits
  rw [tells.timed, tells.accepted, tells.exhausted, ← UInt64.ofNat_add,
    UInt64.toNat_ofNat_of_lt' within, UInt64.toNat_ofNat_of_lt' (by omega),
    UInt64.toNat_ofNat_of_lt' (by omega)]

private theorem labels_after (events : List Event) :
    (Board.after events).writeTimes.buckets.map (fun bucket => boundaryText bucket.1) =
      ["1", "5", "10", "25", "50", "100", "250", "500", "1000", "2500", "5000", "+Inf"] := by
  have labels : (Histogram.defaultBoundaries ++ [Histogram.infinity]).map boundaryText =
      ["1", "5", "10", "25", "50", "100", "250", "500", "1000", "2500", "5000", "+Inf"] := by
    decide +kernel
  rw [← labels, ← bounds_after events, List.map_map]
  rfl

/-- Whatever has happened to a board, its text is read line by line. For each counter it has a
single sample, after a help and a type of its own, and the number read from it is the count of the
board. It ends with the histogram: a line for every bucket, in ascending order up to infinity, with
its count, then one for the sum and one for the number of values. Boards with equal texts have the
same counts, in counters and in buckets. Infinity counts every value; if verdicts and times are only
counted together, those are as many as verdicts of both kinds, and the sum of words is one of
numbers until the words run out. -/
theorem text_faithful (events : List Event) :
    let board := Board.after events
    (∃ lines, readAll (text board) = some lines ∧
      (∀ counter,
        [.help (counterFamily counter) counter.help, .kind (counterFamily counter) "counter",
            .sample (counterFamily counter) none
              (Text.decimalText (board.counts counter).toNat)] <:+: lines ∧
          number? (counterFamily counter) lines = some (board.counts counter).toNat) ∧
      histogramMeanings board.writeTimes <:+ lines ∧
      numbers? (histogramFamily ++ "_bucket") lines = some (board.writeTimes.buckets.map
        fun bucket => (some (boundaryText bucket.1), bucket.2.toNat)) ∧
      samples (histogramFamily ++ "_sum") lines = [(none, Binary64.text board.writeTimes.sum)] ∧
      number? (histogramFamily ++ "_count") lines = some board.writeTimes.count.toNat) ∧
    board.writeTimes.buckets.map (fun bucket => boundaryText bucket.1) =
      ["1", "5", "10", "25", "50", "100", "250", "500", "1000", "2500", "5000", "+Inf"] ∧
    board.writeTimes.buckets.getLast? = some (Histogram.infinity, board.writeTimes.count) ∧
    (∀ other : Board, text board = text other →
      board.counts = other.counts ∧
        board.writeTimes.buckets.map Prod.snd = other.writeTimes.buckets.map Prod.snd) ∧
    ((∀ event ∈ events, event.KeepsVerdicts) →
      board.counts .putsAccepted + board.counts .putsExhausted = board.writeTimes.count ∧
        (events.length < UInt64.size →
          (board.counts .putsAccepted).toNat + (board.counts .putsExhausted).toNat =
            board.writeTimes.count.toNat)) := by
  intro board
  refine ⟨⟨meanings board, readAll_text board, fun counter => ?_, ?_, ?_, samples_sum board, ?_⟩,
    labels_after events, getLast?_buckets_after events, fun other => counts_of_text_eq,
    fun keeps => ?_⟩
  · exact ⟨counterMeanings_within board counter, number?_of_samples (samples_counter board counter)⟩
  · exact List.suffix_append _ _
  · exact numbers?_of_samples (samples_bucket board)
  · exact number?_of_samples (samples_count board)
  · have tells := tellsVerdicts_after keeps
    exact ⟨tells.timed.symm, tells.toNat_add⟩

/-- Two verdicts among other counts: each kind once, two times, of which one is beyond all
boundaries but infinity. -/
theorem text_faithful_verdicts :
    let events : List Event := [.counted .putsAttempted, .decided true ⟨30000000⟩,
      .counted .messagesSent, .decided false ⟨9000000000⟩]
    let board := Board.after events
    (∀ event ∈ events, event.KeepsVerdicts) ∧ events.length < UInt64.size ∧
      (board.counts .putsAccepted).toNat + (board.counts .putsExhausted).toNat =
        board.writeTimes.count.toNat ∧
      board.writeTimes.count = 2 ∧
      ∃ lines, readAll (text board) = some lines ∧
        number? "hivesync_puts_accepted_total" lines = some 1 ∧
        numbers? "hivesync_write_duration_ms_bucket" lines = some
          [(some "1", 0), (some "5", 0), (some "10", 0), (some "25", 0), (some "50", 1),
            (some "100", 1), (some "250", 1), (some "500", 1), (some "1000", 1), (some "2500", 1),
            (some "5000", 1), (some "+Inf", 2)] := by
  intro events board
  have keeps : ∀ event ∈ events, event.KeepsVerdicts := by
    simp [events, Event.KeepsVerdicts]
  have fits : events.length < UInt64.size := by decide
  obtain ⟨⟨lines, read, counters, -, buckets, -⟩, -, -, -, verdicts⟩ := text_faithful events
  refine ⟨keeps, fits, (verdicts keeps).2 fits, rfl, lines, read, ?_, buckets.trans ?_⟩
  · exact (counters .putsAccepted).2
  · decide +kernel

end Runs

end Quorate.Metrics

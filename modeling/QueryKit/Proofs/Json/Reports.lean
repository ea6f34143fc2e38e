import QueryKit.Optimizer.Json
import QueryKit.Proofs.Json.Record
import QueryKit.Proofs.Json.Spelling
import QueryKit.Schema.Json

/-!
# Tables, analyses and statistics read back from JSON

Tables and analyses consist of texts, truth values and counts, and all of them are read back.
Statistics also hold spans, of which a document keeps the whole milliseconds as a 64-bit word,
and a point of time, of which it keeps every nanosecond. What a document keeps of a span is
written again as it was, so from the first reading on nothing changes any more.
-/

namespace QueryKit

/-! ### Parts of records -/

namespace Json

/-- The texts of a document, in the layouts that are written. -/
def texts (document : Json) : List String := [document.compact, document.indented]

/-- A document is read back from each of its texts. -/
theorem Writable.read?_texts {document : Json} (writable : Writable document) {text : String}
    (listed : text ∈ document.texts) : read? text = some document := by
  simp only [texts, List.mem_cons, List.not_mem_nil, or_false] at listed
  rcases listed with rfl | rfl
  · exact writable.read?_compact
  · exact writable.read?_indented

/-- A list is read back if each of its elements is. -/
theorem list?_map {α : Type} {encode : α → Json} {decode : Json → Option α}
    (back : ∀ value, decode (encode value) = some value) (values : List α) :
    list? decode (.array (values.map encode)) = some values := by
  rw [list?]
  induction values with
  | nil => rfl
  | cons value rest ih =>
    rw [List.map_cons, List.mapM_cons, back, ih]
    rfl

/-- A text is read back. -/
theorem text?_text (content : String) : text? (text content) = some content := rfl

end Json

namespace Duration

/-- A span is written as a natural number. -/
theorem writable_toJson (span : Duration) : span.toJson.Writable := .nat _

/-- What is kept of a span is written as the span was. -/
theorem toJson_rounded (span : Duration) : span.rounded.toJson = span.toJson := by
  rw [toJson, toJson, millisWord, millis, nanoseconds_rounded, millisWord, millis]
  congr 1
  omega

end Duration

namespace Timestamp

/-- A timestamp is its seconds and the nanoseconds beyond them. -/
theorem ofSeconds?_seconds_subsecond (timestamp : Timestamp) :
    ofSeconds? timestamp.seconds timestamp.subsecond = some timestamp := by
  obtain ⟨nanoseconds, inRange⟩ := timestamp
  have whole : nanoseconds / 1_000_000_000 * 1_000_000_000 + nanoseconds % 1_000_000_000 =
      nanoseconds := by omega
  simp only [ofSeconds?, seconds, subsecond, whole, inRange, ↓reduceDIte]

/-- The seconds of a timestamp are a 64-bit word. -/
theorem seconds_lt (timestamp : Timestamp) : timestamp.seconds < 0x1_0000_0000_0000_0000 := by
  have inRange := timestamp.lt_limit
  rw [seconds]
  omega

/-- The nanoseconds beyond the seconds are a 32-bit word. -/
theorem subsecond_lt (timestamp : Timestamp) : timestamp.subsecond < 0x1_0000_0000 := by
  rw [subsecond]
  omega

/-- A timestamp is written with its own fields alone. -/
theorem onlyKnown_toJson (timestamp : Timestamp) :
    Json.Fields.onlyKnown fieldNames timestamp.toJson = true := by
  simp [toJson, Json.record, Json.Fields.onlyKnown, fieldNames]

/-- A timestamp is read back to the nanosecond. -/
theorem ofJson?_toJson (timestamp : Timestamp) : ofJson? timestamp.toJson = some timestamp := by
  have fields : Json.Fields.of? fieldNames timestamp.toJson = some ⟨false, _⟩ :=
    Json.Fields.of?_record rfl (by decide)
  rw [ofJson?, if_pos timestamp.onlyKnown_toJson, fields]
  simp only [Json.Fields.required, Option.bind_eq_bind, Option.bind_some, List.lookup_cons,
    String.reduceBEq]
  -- Not by `simp`, whose proof makes the kernel count to the bound on the seconds.
  rw [Json.word?_nat timestamp.seconds_lt, Option.bind_some,
    Json.natural?_nat timestamp.subsecond_lt, Option.bind_some]
  exact timestamp.ofSeconds?_seconds_subsecond

/-- A timestamp is never written as null. -/
theorem toJson_ne_null (timestamp : Timestamp) : timestamp.toJson ≠ .null := by
  simp [toJson, Json.record]

/-- A timestamp is a document that can be written. -/
theorem writable_toJson (timestamp : Timestamp) : timestamp.toJson.Writable :=
  .fields ⟨.nat _, .nat _⟩

end Timestamp

/-! ### Tables -/

namespace Index

/-- An index is read back. -/
theorem ofJson?_toJson (index : Index) : ofJson? index.toJson = some index := by
  have fields : Json.Fields.of? fieldNames index.toJson = some ⟨false, _⟩ :=
    Json.Fields.of?_record rfl (by decide)
  simp only [ofJson?, fields, Json.Fields.required, Option.bind_eq_bind, Option.bind_some,
    List.lookup_cons, String.reduceBEq, Json.text?_text, Json.list?_map Json.text?_text]

/-- An index is a document that can be written. -/
theorem writable_toJson (index : Index) : index.toJson.Writable :=
  .fields ⟨.text _, .list .text _⟩

end Index

namespace Table

/-- A table is read back with its indexes. -/
theorem ofJson?_toJson (table : Table) : ofJson? table.toJson = some table := by
  have fields : Json.Fields.of? fieldNames table.toJson = some ⟨false, _⟩ :=
    Json.Fields.of?_record rfl (by decide)
  simp only [ofJson?, fields, Json.Fields.required, Json.Fields.withDefault, Option.bind_eq_bind,
    Option.bind_some, List.lookup_cons, String.reduceBEq, Json.text?_text,
    Json.list?_map Json.text?_text, Json.list?_map Index.ofJson?_toJson]

/-- A table is a document that can be written. -/
theorem writable_toJson (table : Table) : table.toJson.Writable :=
  .fields ⟨.text _, .list .text _, .list Index.writable_toJson _⟩

end Table

/-! ### Analyses -/

namespace QueryAnalysis

/-- The numbers of an analysis are machine words: the time one of 64 bits, the complexity one
of 32. -/
structure InRange (analysis : QueryAnalysis) : Prop where
  estimatedMillis : analysis.estimatedMillis < 0x1_0000_0000_0000_0000
  complexityScore : analysis.complexityScore < 0x1_0000_0000

/-- An analysis is read back if its numbers fit their words. -/
theorem ofJson?_toJson {analysis : QueryAnalysis} (inRange : analysis.InRange) :
    ofJson? analysis.toJson = some analysis := by
  have fields : Json.Fields.of? fieldNames analysis.toJson = some ⟨false, _⟩ :=
    Json.Fields.of?_record rfl (by decide)
  simp only [ofJson?, fields, Json.Fields.required, Option.bind_eq_bind, Option.bind_some,
    List.lookup_cons, String.reduceBEq, Json.text?_text, Json.word?_nat inRange.estimatedMillis,
    Json.bool?, Json.list?_map Json.text?_text, Json.natural?_nat inRange.complexityScore]

/-- An analysis is a document that can be written. -/
theorem writable_toJson (analysis : QueryAnalysis) : analysis.toJson.Writable :=
  .fields ⟨.text _, .nat _, .bool _, .list .text _, .list .text _, .nat _⟩

end QueryAnalysis

/-! ### Statistics -/

namespace QueryStats

/-- The statistics with every span in whole milliseconds, as a 64-bit word. -/
def rounded (stats : QueryStats) : QueryStats :=
  { stats with
    totalTime := stats.totalTime.rounded
    minTime := stats.minTime.map Duration.rounded
    maxTime := stats.maxTime.map Duration.rounded }

/-- Statistics are read back with their spans in whole milliseconds. -/
theorem ofJson?_toJson {stats : QueryStats}
    (inRange : stats.executionCount < 0x1_0000_0000_0000_0000) :
    ofJson? stats.toJson = some stats.rounded := by
  have fields : Json.Fields.of? fieldNames stats.toJson = some ⟨false, _⟩ :=
    Json.Fields.of?_record rfl (by decide)
  have span := Json.nullable?_ofOption Duration.toJson_ne_null Duration.ofJson?_toJson
  have last : Json.nullable? Timestamp.ofJson?
      (Json.ofOption (stats.lastExecuted.map Timestamp.toJson)) = some stats.lastExecuted := by
    rw [Json.nullable?_ofOption Timestamp.toJson_ne_null Timestamp.ofJson?_toJson, Option.map_id']
  rw [ofJson?, fields]
  simp only [Json.Fields.required, Json.Fields.nullableByName, Option.bind_eq_bind,
    Option.bind_some, List.lookup_cons, String.reduceBEq]
  rw [Json.text?_text, Option.bind_some, Json.word?_nat inRange, Option.bind_some,
    Duration.ofJson?_toJson, Option.bind_some, span, Option.bind_some, span, Option.bind_some,
    last, Option.bind_some, rounded]

/-- Statistics are a document that can be written. -/
theorem writable_toJson (stats : QueryStats) : stats.toJson.Writable :=
  .fields ⟨.text _, .nat _, stats.totalTime.writable_toJson, .ofOption Duration.writable_toJson _,
    .ofOption Duration.writable_toJson _, .ofOption Timestamp.writable_toJson _⟩

/-- What is kept of statistics is written as the statistics were. -/
theorem toJson_rounded (stats : QueryStats) : stats.rounded.toJson = stats.toJson := by
  have again (span : Option Duration) :
      (span.map Duration.rounded).map Duration.toJson = span.map Duration.toJson := by
    rw [Option.map_map]
    exact Option.map_congr fun span _ => span.toJson_rounded
  rw [toJson, toJson, rounded, again, again, Duration.toJson_rounded]

end QueryStats

/-- Tables and analyses are read back as they were from each of their texts. Statistics are
read back with the same text, the same count and the same last execution, to the nanosecond;
of their spans the whole milliseconds are left, modulo `2 ^ 64`. What was read has the same
texts again, so a second round changes nothing. -/
theorem documents_read_back :
    (∀ table : Table, ∀ text ∈ table.toJson.texts,
      (Json.read? text).bind Table.ofJson? = some table) ∧
    (∀ analysis : QueryAnalysis, analysis.InRange → ∀ text ∈ analysis.toJson.texts,
      (Json.read? text).bind QueryAnalysis.ofJson? = some analysis) ∧
    (∀ stats : QueryStats, stats.executionCount < 0x1_0000_0000_0000_0000 →
      ∃ again, (∀ text ∈ stats.toJson.texts,
          (Json.read? text).bind QueryStats.ofJson? = some again) ∧
        again = { stats with
          totalTime := stats.totalTime.rounded
          minTime := stats.minTime.map Duration.rounded
          maxTime := stats.maxTime.map Duration.rounded } ∧
        again.toJson.texts = stats.toJson.texts) ∧
    ∀ span : Duration, span.rounded.nanoseconds =
      span.nanoseconds / 1_000_000 % 0x1_0000_0000_0000_0000 * 1_000_000 := by
  refine ⟨fun table text listed => ?_, fun analysis inRange text listed => ?_,
    fun stats inRange => ⟨stats.rounded, fun text listed => ?_, rfl, ?_⟩,
    Duration.nanoseconds_rounded⟩
  · rw [table.writable_toJson.read?_texts listed, Option.bind_some, Table.ofJson?_toJson]
  · rw [analysis.writable_toJson.read?_texts listed, Option.bind_some,
      QueryAnalysis.ofJson?_toJson inRange]
  · rw [stats.writable_toJson.read?_texts listed, Option.bind_some,
      QueryStats.ofJson?_toJson inRange]
  · rw [stats.toJson_rounded]

/-- A total of more than `2 ^ 64` milliseconds is cut down to what is beyond them, and a least
time below a millisecond to none at all. -/
theorem documents_read_back_cut_off :
    let analysis : QueryAnalysis :=
      ⟨"SELECT \"☃\"\n", 0x1_0000_0000_0000_0000 - 1, true, ["größe"], [], 0x1_0000_0000 - 1⟩
    let last : Timestamp := ⟨1_700_000_000_000_000_001, by decide⟩
    let stats : QueryStats :=
      ⟨"SELECT 1", 0x1_0000_0000_0000_0000 - 1, .ofMillis (0x1_0000_0000_0000_0000 + 5),
        some (.ofNanoseconds 999_999), none, some last⟩
    analysis.InRange ∧ stats.executionCount < 0x1_0000_0000_0000_0000 ∧
    (Json.read? analysis.toJson.compact).bind QueryAnalysis.ofJson? = some analysis ∧
    (Json.read? stats.toJson.indented).bind QueryStats.ofJson? =
      some ⟨"SELECT 1", 0x1_0000_0000_0000_0000 - 1, .ofMillis 5, some .zero, none, some last⟩ := by
  intro analysis last stats
  have inRange : analysis.InRange := ⟨by decide, by decide⟩
  have countable : stats.executionCount < 0x1_0000_0000_0000_0000 := by decide
  obtain ⟨-, analyses, statistics, -⟩ := documents_read_back
  obtain ⟨again, read, rfl, -⟩ := statistics stats countable
  refine ⟨inRange, countable, analyses analysis inRange _ (by simp [Json.texts]), ?_⟩
  rw [read _ (by simp [Json.texts]), Option.some.injEq, QueryStats.mk.injEq]
  refine ⟨rfl, rfl, ?_, ?_, rfl, rfl⟩
  · exact Duration.ext (by decide +kernel)
  · exact congrArg some (Duration.ext (by decide +kernel))

end QueryKit

import Mathlib
import Scriptlet.Proofs.JsonNumbers
import Scriptlet.Proofs.Utf8
import Scriptlet.Trace.Event
import Scriptlet.Trace.Summary

/-! Events as they are written and read back. An event is one line of a trace, and the record that is read
from the line tells its name, its run, its time, its line, of an error the message, and of a statement that
was completed its value. -/
namespace Scriptlet

open Decimal Json

namespace Json.Member

def ofText (key text : String) : Member :=
  ⟨key, (quote text).toList, .string (String.ofList (escapedText text))⟩

def ofCount (key : String) (count : Nat) : Member :=
  ⟨key, figures count, .number (String.ofList (figures count))⟩

def ofMembers (key : String) (members : List Member) : Member :=
  ⟨key, '\x7b' :: (membersText members ++ ['\x7d']), .object (members.map read)⟩

structure Plain (key : String) : Prop where
  unescaped : ∀ rest, stringTail? (key.toList ++ '"' :: rest) = some (key.toList, rest)
  oneLine : '\n' ∉ key.toList

theorem Plain.reads {room : Nat} {member : Member} (plain : Plain member.key)
    (value : ReadsAs room member.text member.json) (oneLine : '\n' ∉ member.text) :
    member.Reads room :=
  ⟨plain.unescaped, value, fun inside => (List.mem_append.mp inside).elim plain.oneLine oneLine⟩

theorem ofText_reads (room : Nat) {key : String} (plain : Plain key) (text : String) :
    (ofText key text).Reads room :=
  Plain.reads plain (string_reads room text) (quote_line text)

theorem ofCount_reads (room : Nat) {key : String} (plain : Plain key) {count : Nat}
    (fits : count < 2 ^ 64) : (ofCount key count).Reads room :=
  have ⟨reads, oneLine, _⟩ := signed_reads room (figures_writes fits) (.inl rfl)
  Plain.reads plain reads oneLine

theorem ofMembers_reads {room : Nat} {key : String} (plain : Plain key) {members : List Member}
    (some : members ≠ []) (reads : ∀ member ∈ members, member.Reads room) :
    (ofMembers key members).Reads (room + 1) := by
  refine Plain.reads plain (object_reads some reads) ?_
  simp [ofMembers, object_line reads]

end Json.Member

open Json.Member

namespace Event

def counted : Event → Nat
  | runStart statements => statements
  | runEnd statements => statements
  | _ => 0

/-- The numbers of the event are in the range of what reads them. -/
structure Fits (event : Event) : Prop where
  positive : 0 ≤ event.line
  line : event.line < 2 ^ 63
  counted : event.counted < 2 ^ 64

structure Shown (event : Event) (room : Nat) (members : List Member) : Prop where
  text : event.data.toList = membersText members
  some : members ≠ []
  reads : ∀ member ∈ members, member.Reads room
  fits : memberNumbersFit (members.map read) = true
  message : ∀ error, event = .runtimeError error →
    members = [.ofText "code" error.fault.code, .ofText "message" error.fault.message.shown]
  value : ∀ kind line value, event = .statementEnd kind line value →
    members = [.ofText "kind" kind, ⟨"value", value.toJson.toList, ofValue value⟩]

theorem data_shown (room : Nat) {event : Event} (fits : event.Fits) :
    ∃ members, event.Shown room members := by
  have kind : Plain "kind" := ⟨fun _ => rfl, by decide⟩
  have count {count : Nat} (short : count < 2 ^ 64) :
      Shown (runStart count) room [.ofCount "statements" count] := by
    refine ⟨?_, List.cons_ne_nil _ _, ?_, ?_, fun _ same => (by cases same), fun _ _ _ same => by cases same⟩
    · have text : (runStart count).data = "\"statements\":" ++ toString count := rfl
      simp [text, membersText, Member.shown, ofCount, figures]
    · exact List.forall_mem_singleton.mpr (ofCount_reads room ⟨fun _ => rfl, by decide⟩ short)
    · simpa [memberNumbersFit, Member.read, ofCount, numbersFit] using (figures_writes short).fits
  cases event with
  | runStart statements => exact ⟨_, count fits.counted⟩
  | statementStart name line =>
    refine ⟨[.ofText "kind" name], ?_, List.cons_ne_nil _ _, ?_, rfl, fun _ same => (by cases same),
      fun _ _ _ same => by cases same⟩
    · simp [data, membersText, Member.shown, ofText]
    · exact List.forall_mem_singleton.mpr (ofText_reads room kind name)
  | statementEnd name line value =>
    have plain : Plain "value" := ⟨fun _ => rfl, by decide⟩
    obtain ⟨reads, oneLine, range⟩ := value_reads room value
    refine ⟨[.ofText "kind" name, ⟨"value", value.toJson.toList, ofValue value⟩], ?_, List.cons_ne_nil _ _,
      ?_, ?_, fun _ same => (by cases same), fun _ _ _ same => by cases same; rfl⟩
    · simp [data, membersText, Member.shown, ofText]
    · exact List.forall_mem_cons.mpr ⟨ofText_reads room kind name,
        List.forall_mem_singleton.mpr (plain.reads reads oneLine)⟩
    · simpa [memberNumbersFit, Member.read, ofText, numbersFit] using range
  | print line text =>
    refine ⟨[.ofText "text" text.shown], ?_, List.cons_ne_nil _ _, ?_, rfl, fun _ same => (by cases same),
      fun _ _ _ same => by cases same⟩
    · simp [data, membersText, Member.shown, ofText]
    · exact List.forall_mem_singleton.mpr (ofText_reads room ⟨fun _ => rfl, by decide⟩ text.shown)
  | runtimeError error =>
    refine ⟨[.ofText "code" error.fault.code, .ofText "message" error.fault.message.shown], ?_,
      List.cons_ne_nil _ _, ?_, rfl, fun _ same => (by cases same; rfl), fun _ _ _ same => by cases same⟩
    · simp [data, membersText, Member.shown, ofText]
    · exact List.forall_mem_cons.mpr ⟨ofText_reads room ⟨fun _ => rfl, by decide⟩ _,
        List.forall_mem_singleton.mpr (ofText_reads room ⟨fun _ => rfl, by decide⟩ _)⟩
  | runEnd statements =>
    have shown := count fits.counted
    exact ⟨_, shown.text, shown.some, shown.reads, shown.fits, fun _ same => (by cases same),
      fun _ _ _ same => by cases same⟩

def members (time runId : String) (event : Event) (data : List Member) : List Member :=
  [ofText "ts" time, ofText "runId" runId, ofText "event" event.name]
    ++ (if event.line = 0 then [] else [ofCount "line" event.line.toNat])
    ++ [ofMembers "data" data]

def record (time runId : String) (event : Event) (data : List Member) : TraceRecord :=
  ⟨event.name, runId, time, event.line, data.map fun member => (decodeText member.key, member.json)⟩

end Event

namespace TraceRecord

def take (record : TraceRecord) (member : Member) : Option TraceRecord :=
  record.field (fold (decodeText member.key)) member.json

theorem asRecord_members (members : List Member) :
    asRecord? {} field (.object (members.map Member.read)) = members.foldlM take {} := by
  rw [asRecord?, List.foldlM_map]
  rfl

theorem take_eq (record : TraceRecord) (member : Member) {name : String}
    (key : fold (decodeText member.key) = name) : record.take member = record.field name member.json := by
  rw [take, key]

theorem take_time (record : TraceRecord) (time : String) :
    record.take (.ofText "ts" time) = some { record with time } := by
  have key : fold (decodeText "ts") = "ts" := rfl
  rw [take_eq record (.ofText "ts" time) key, field, ofText, asText?, decodeText_escapedText,
    Option.map_some]

theorem take_run (record : TraceRecord) (runId : String) :
    record.take (.ofText "runId" runId) = some { record with runId } := by
  have key : fold (decodeText "runId") = "runid" := rfl
  rw [take_eq record (.ofText "runId" runId) key, field, ofText, asText?, decodeText_escapedText,
    Option.map_some]

theorem take_event (record : TraceRecord) (event : String) :
    record.take (.ofText "event" event) = some { record with event } := by
  have key : fold (decodeText "event") = "event" := rfl
  rw [take_eq record (.ofText "event" event) key, field, ofText, asText?, decodeText_escapedText,
    Option.map_some]

theorem take_line (record : TraceRecord) {line : Nat} (short : line < 2 ^ 63) :
    record.take (.ofCount "line" line) = some { record with line } := by
  have key : fold (decodeText "line") = "line" := rfl
  rw [take_eq record (.ofCount "line" line) key, field, ofCount, asInteger?,
    readInteger_figures (figures_numeral line), valueOf_figures, if_pos short, Option.map_some, Option.map_some,
    Int64.toInt_ofInt_of_le (by omega) (by omega)]

theorem take_data {data : List Member} (fits : memberNumbersFit (data.map Member.read) = true)
    (record : TraceRecord) : record.take (.ofMembers "data" data) = some { record with
      data := record.data ++ data.map fun member => (decodeText member.key, member.json) } := by
  have key : fold (decodeText "data") = "data" := rfl
  rw [take_eq record (.ofMembers "data" data) key, field, ofMembers, readData?, if_pos fits,
    List.map_map, Option.map_some]
  rfl

end TraceRecord

namespace Event

section Line

variable {room : Nat} {event : Event} {data : List Member} (time runId : String)

theorem toJson_members (fits : event.Fits) (shown : event.Shown room data) :
    (event.toJson time runId).toList =
      '\x7b' :: (membersText (event.members time runId data) ++ ['\x7d']) := by
  unfold toJson
  by_cases whole : event.line = 0
  · simp [members, whole, membersText, Member.shown, ofText, ofMembers, shown.text]
  · have text : s!",\"line\":{event.line}" = ",\"line\":" ++ event.line.repr := rfl
    have line : event.line.repr.toList = figures event.line.toNat := by
      rw [Int.repr_eq_if, if_pos fits.positive, Nat.toList_repr, figures]
    rw [if_neg whole, text]
    simp [members, whole, membersText, Member.shown, ofText, ofCount, ofMembers, shown.text, line]

theorem members_reads (fits : event.Fits) (shown : event.Shown room data) :
    ∀ member ∈ event.members time runId data, member.Reads (room + 1) := by
  have texts : ∀ member ∈ [ofText "ts" time, ofText "runId" runId, ofText "event" event.name],
      member.Reads (room + 1) :=
    List.forall_mem_cons.mpr ⟨ofText_reads _ ⟨fun _ => rfl, by decide⟩ time,
      List.forall_mem_cons.mpr ⟨ofText_reads _ ⟨fun _ => rfl, by decide⟩ runId,
        List.forall_mem_singleton.mpr (ofText_reads _ ⟨fun _ => rfl, by decide⟩ event.name)⟩⟩
  have line : ofCount "line" event.line.toNat |>.Reads (room + 1) := by
    refine ofCount_reads _ ⟨fun _ => rfl, by decide⟩ ?_
    have short := fits.line
    omega
  have inner : ofMembers "data" data |>.Reads (room + 1) :=
    ofMembers_reads ⟨fun _ => rfl, by decide⟩ shown.some shown.reads
  intro member inside
  rcases List.mem_append.mp inside with front | last
  · rcases List.mem_append.mp front with text | numbered
    · exact texts member text
    · split at numbered
      · cases numbered
      · exact List.mem_singleton.mp numbered ▸ line
  · exact List.mem_singleton.mp last ▸ inner

theorem toJson_line (fits : event.Fits) : '\n' ∉ (event.toJson time runId).toList := by
  obtain ⟨data, shown⟩ := data_shown 0 fits
  rw [toJson_members time runId fits shown]
  simp [object_line (members_reads time runId fits shown)]

theorem trim_toJson (fits : event.Fits) :
    Text.trim (event.toJson time runId) = event.toJson time runId := by
  -- What is written starts and ends with a brace, so nothing is trimmed off it.
  obtain ⟨data, shown⟩ := data_shown 0 fits
  have text := toJson_members time runId fits shown
  have brace : Text.isBlank '\x7b' = false ∧ Text.isBlank '\x7d' = false := by decide
  rw [Text.trim, text, Text.trimChars, Text.trimBy, List.dropWhile_cons_of_neg (by simp [brace.1]),
    ← List.cons_append, List.reverse_append, List.reverse_singleton, List.singleton_append,
    List.dropWhile_cons_of_neg (by simp [brace.2]), List.reverse_cons, List.reverse_reverse,
    List.cons_append, ← text, String.ofList_toList]

theorem take_numbered (fits : event.Fits) (name : String) :
    (if event.line = 0 then [] else [ofCount "line" event.line.toNat]).foldlM TraceRecord.take
      ⟨name, runId, time, 0, []⟩ = some ⟨name, runId, time, event.line, []⟩ := by
  -- A line that is left out is that of the empty record.
  split
  · next zero => rw [zero, List.foldlM_nil]; rfl
  · have short := fits.line
    rw [List.foldlM_cons, TraceRecord.take_line _ (by omega), Int.toNat_of_nonneg fits.positive]
    rfl

/-- An event is read back from its line. -/
theorem ofLine_toJson (fits : event.Fits) (shown : event.Shown room data)
    (inside : Json.maxNesting = room + 2) : TraceRecord.ofLine? (event.toJson time runId) =
      some (event.record time runId data) := by
  have whole : ReadsAs Json.maxNesting (event.toJson time runId).toList
      (.object ((event.members time runId data).map Member.read)) := by
    rw [toJson_members time runId fits shown, inside]
    exact object_reads (by simp [members]) (members_reads time runId fits shown)
  have read := read_of_reads whole
  rw [String.ofList_toList] at read
  have front : [ofText "ts" time, ofText "runId" runId, ofText "event" event.name].foldlM
      TraceRecord.take {} = some ⟨event.name, runId, time, 0, []⟩ := by
    simp only [List.foldlM_cons, List.foldlM_nil, TraceRecord.take_time, TraceRecord.take_run,
      TraceRecord.take_event, Option.bind_eq_bind, Option.bind_some]
    rfl
  simp only [TraceRecord.ofLine?, read, Option.bind_eq_bind, Option.bind_some]
  rw [TraceRecord.asRecord_members, members, List.foldlM_append, List.foldlM_append, front]
  simp only [Option.bind_eq_bind, Option.bind_some]
  rw [take_numbered time runId fits, Option.bind_some, List.foldlM_cons, TraceRecord.take_data shown.fits]
  rfl

end Line

end Event

structure TraceRecord.Tells (record : TraceRecord) (runId : String) (event : Event) : Prop where
  name : record.event = event.name
  run : record.runId = runId
  line : record.line = event.line
  message : ∀ error, event = .runtimeError error → ∃ literal,
    record.datum? "message" = some (.string literal) ∧ decodeText literal = error.fault.message.shown
  value : ∀ kind line value, event = .statementEnd kind line value →
    record.datum? "value" = some (ofValue value)

theorem Event.record_tells {room : Nat} {event : Event} {data : List Member} (time runId : String)
    (shown : event.Shown room data) : (event.record time runId data).Tells runId event := by
  refine ⟨rfl, rfl, rfl, fun error same => ?_, fun kind line value same => ?_⟩
  · subst same
    have key : decodeText "message" = "message" := rfl
    refine ⟨_, ?_, decodeText_escapedText error.fault.message.shown⟩
    simp [shown.message error rfl, record, TraceRecord.datum?, ofText, key]
  · subst same
    have key : decodeText "value" = "value" := rfl
    simp [shown.value kind line value rfl, record, TraceRecord.datum?, key]

theorem Event.read_toJson {event : Event} (fits : event.Fits) (time runId : String) : ∃ record,
    TraceRecord.ofLine? (Text.trim (event.toJson time runId)) = some record ∧
      record.Tells runId event := by
  obtain ⟨data, shown⟩ := data_shown 9998 fits
  refine ⟨_, ?_, record_tells time runId shown⟩
  rw [trim_toJson time runId fits, ofLine_toJson time runId fits shown rfl]

/-- The trace of a run: its events, each with its time, one on a line. -/
def traceText (runId : String) (stamped : List (String × Event)) : String :=
  String.join (stamped.map fun entry => entry.2.toJson entry.1 runId ++ "\n")

theorem splitAt_line {α : Type} [DecidableEq α] {separator : α} {line : List α} (whole : separator ∉ line)
    (rest : List α) :
    Text.splitAt separator (line ++ separator :: rest) = line :: Text.splitAt separator rest := by
  induction line with
  | nil => simp [Text.splitAt]
  | cons item others ih =>
    obtain ⟨other, further⟩ := not_or.mp (mt List.mem_cons.mpr whole)
    have first : Text.splitAt separator (item :: (others ++ separator :: rest)) =
        Text.prepend item (Text.splitAt separator (others ++ separator :: rest)) := by
      simp [Text.splitAt, Ne.symm other]
    rw [List.cons_append, first, ih further, Text.prepend]

theorem splitAt_lines {α : Type} [DecidableEq α] {separator : α} {lines : List (List α)}
    (whole : ∀ line ∈ lines, separator ∉ line) :
    Text.splitAt separator (lines.flatMap fun line => line ++ [separator]) = lines ++ [[]] := by
  induction lines with
  | nil => rfl
  | cons line others ih =>
    obtain ⟨first, further⟩ := List.forall_mem_cons.mp whole
    rw [List.flatMap_cons, List.append_assoc, List.singleton_append, splitAt_line first, ih further,
      List.cons_append]

theorem toList_trace (runId : String) (stamped : List (String × Event)) :
    (traceText runId stamped).toList =
      (stamped.map fun entry => (entry.2.toJson entry.1 runId).toList).flatMap (· ++ ['\n']) := by
  unfold traceText
  induction stamped with
  | nil => rfl
  | cons entry others ih =>
    rw [List.map_cons, String.join_cons, String.toList_append, ih, List.map_cons, List.flatMap_cons,
      String.toList_append]
    rfl

theorem lines_trace (runId : String) {stamped : List (String × Event)}
    (fits : ∀ entry ∈ stamped, entry.2.Fits) :
    Text.lines (traceText runId stamped) =
      (stamped.map fun entry => entry.2.toJson entry.1 runId) ++ [""] := by
  have whole : ∀ line ∈ stamped.map fun entry => (entry.2.toJson entry.1 runId).toList, '\n' ∉ line := by
    rintro line listed
    obtain ⟨entry, member, rfl⟩ := List.mem_map.mp listed
    exact Event.toJson_line entry.1 runId (fits entry member)
  rw [Text.lines, toList_trace, splitAt_lines whole, List.map_append, List.map_map]
  simp [Function.comp_def]

theorem records_trace (runId : String) {stamped : List (String × Event)}
    (fits : ∀ entry ∈ stamped, entry.2.Fits) :
    List.Forall₂ (fun record entry => record.Tells runId entry.2)
      (TraceSummary.records (traceText runId stamped)) stamped := by
  have last : TraceRecord.ofLine? (Text.trim "") = none := rfl
  rw [TraceSummary.records, lines_trace runId fits, List.filterMap_append, List.filterMap_cons, last,
    List.filterMap_nil, List.append_nil]
  induction stamped with
  | nil => exact .nil
  | cons entry others ih =>
    obtain ⟨first, further⟩ := List.forall_mem_cons.mp fits
    obtain ⟨record, read, tells⟩ := Event.read_toJson first entry.1 runId
    rw [List.map_cons, List.filterMap_cons, read]
    exact .cons tells (ih further)

/-! The bytes of a trace. No byte of a character other than a line break is a line feed, so the lines of the
bytes are the bytes of the lines. -/

theorem toUTF8_trace (runId : String) (stamped : List (String × Event)) :
    (traceText runId stamped).toUTF8.toList =
      (stamped.map fun entry => (entry.2.toJson entry.1 runId).toUTF8.toList).flatMap
        (· ++ [Text.lineFeed]) := by
  have lineBreak : ['\n'].flatMap String.utf8EncodeChar = [Text.lineFeed] := by decide
  simp only [Text.toList_toUTF8, toList_trace, List.flatMap_map, List.flatMap_assoc, List.flatMap_append,
    lineBreak]

theorem byteLines_trace (runId : String) {stamped : List (String × Event)}
    (fits : ∀ entry ∈ stamped, entry.2.Fits) :
    Text.splitAt Text.lineFeed (traceText runId stamped).toUTF8.toList =
      (stamped.map fun entry => (entry.2.toJson entry.1 runId).toUTF8.toList) ++ [[]] := by
  rw [toUTF8_trace]
  apply splitAt_lines
  intro line listed
  obtain ⟨entry, member, rfl⟩ := List.mem_map.mp listed
  exact Text.lineFeed_toUTF8 (Event.toJson_line entry.1 runId (fits entry member))

namespace TraceSummary

variable (runId : String) {stamped : List (String × Event)} (fits : ∀ entry ∈ stamped, entry.2.Fits)

include fits

theorem ofInput_short
    (short : ∀ entry ∈ stamped, (entry.2.toJson entry.1 runId).utf8ByteSize < lineLimit) :
    ofInput ⟨(traceText runId stamped).toUTF8, none⟩ = .ok (ofText (traceText runId stamped)) := by
  have allShort : ((Text.splitAt Text.lineFeed (traceText runId stamped).toUTF8.toList).any fun line =>
      lineLimit ≤ line.length) = false := by
    rw [byteLines_trace runId fits, List.any_append, List.any_map, Bool.or_eq_false_iff]
    constructor
    · rw [List.any_eq_false]
      intro entry member
      simp only [Function.comp_apply, Text.length_toUTF8, decide_eq_true_eq, Nat.not_le]
      exact short entry member
    · decide
  rw [ofInput, allShort, Text.ofBytes_toUTF8]
  rfl

theorem ofInput_long {entry : String × Event} (member : entry ∈ stamped)
    (long : lineLimit ≤ (entry.2.toJson entry.1 runId).utf8ByteSize) :
    ofInput ⟨(traceText runId stamped).toUTF8, none⟩ = .error .lineTooLong := by
  have someLong : ((Text.splitAt Text.lineFeed (traceText runId stamped).toUTF8.toList).any fun line =>
      lineLimit ≤ line.length) = true := by
    rw [byteLines_trace runId fits, List.any_append, List.any_map, Bool.or_eq_true]
    refine .inl (List.any_eq_true.mpr ⟨entry, member, ?_⟩)
    simp only [Function.comp_apply, Text.length_toUTF8, decide_eq_true_eq]
    exact long
  rw [ofInput, someLong]
  rfl

end TraceSummary

end Scriptlet

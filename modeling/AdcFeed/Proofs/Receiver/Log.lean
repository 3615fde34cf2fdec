import AdcFeed.Program.Report
import AdcFeed.Proofs.FaultMessage
import AdcFeed.Proofs.Line
import AdcFeed.Proofs.Receiver.Bounded

/-!
The log of a session. Every line that comes is told of by one event (`lineOutcomes_session`), an
event is one line of the log (`Event.OfStream.shown_targetLine`), and that line tells the event with
all it carries (`Event.OfStream.targetLine_inj`). Main statement: whatever a peer sends, it can
neither break a log line nor have one written that stands for something else (`session_log`).
-/

namespace AdcFeed

/-- The log as one text: its lines, each ended by a newline. -/
def writtenLog (lines : List String) : List Char := lines.flatMap fun line => line.toList ++ ['\n']

theorem newline_not_mem_of_shown {cs : List Char} (h : Shown cs) : '\n' ∉ cs := by
  intro hm
  exact absurd (h _ hm).not_isControl (by decide)

/-- A text of lines that hold no newline tells the lines. -/
theorem writtenLog_inj {lines lines' : List String} (h : ∀ line ∈ lines, Shown line.toList)
    (h' : ∀ line ∈ lines', Shown line.toList) (he : writtenLog lines = writtenLog lines') :
    lines = lines' := by
  induction lines generalizing lines' with
  | nil =>
    cases lines' with
    | nil => rfl
    | cons line' lines' => simp [writtenLog] at he
  | cons line lines ih =>
    cases lines' with
    | nil => simp [writtenLog] at he
    | cons line' lines' =>
      obtain ⟨hline, hlines⟩ := List.forall_mem_cons.1 h
      obtain ⟨hline', hlines'⟩ := List.forall_mem_cons.1 h'
      simp only [writtenLog, List.flatMap_cons, List.append_assoc, List.singleton_append] at he
      obtain ⟨hfirst, hlater⟩ := eq_of_append_cons_eq (newline_not_mem_of_shown hline)
        (newline_not_mem_of_shown hline') he
      rw [String.toList_inj.1 hfirst, ih hlines hlines' hlater]

/-- A reading is determined by its value in decimal, which is read back. -/
theorem Reading.toString_value_inj {r r' : Reading}
    (h : toString r.value.toInt = toString r'.value.toInt) : r = r' := by
  have htext : r.text = r'.text := by rw [text, text, h]
  have hread : ofLine (encodeText r.text) = .ok r' := htext ▸ ofLine_text r'
  rw [ofLine_text] at hread
  exact Except.ok.inj hread

/-- A text of lines that hold no newline has as many newlines as lines. -/
theorem count_newline_writtenLog {lines : List String} (h : ∀ line ∈ lines, Shown line.toList) :
    (writtenLog lines).count '\n' = lines.length := by
  induction lines with
  | nil => rfl
  | cons line lines ih =>
    obtain ⟨hline, hlines⟩ := List.forall_mem_cons.1 h
    have hlater := ih hlines
    rw [writtenLog] at hlater
    rw [writtenLog, List.flatMap_cons, List.count_append, List.count_append, hlater,
      List.count_eq_zero_of_not_mem (newline_not_mem_of_shown hline), List.count_singleton_self,
      List.length_cons]
    omega

namespace Event

/-- The events that the stream of a peer gives rise to. -/
inductive OfStream : Event → Prop
  | decoded (size : Nat) : OfStream (.buffer (.decoded size))
  | skipped (size : Nat) : OfStream (.buffer (.skipped size))
  | received (reading : Reading) : OfStream (.received reading)
  | malformed (fault : LineFault) : OfStream (.malformed fault)
  | dropping (fault : LineFault) : OfStream (.dropping fault)
  | endOfStream : OfStream .endOfStream
  | midLine (size : Nat) : OfStream (.midLine size)

theorem ofStream_buffer (note : BufferNote) : OfStream (.buffer note) := by
  cases note with
  | decoded size => exact .decoded size
  | skipped size => exact .skipped size

theorem OfStream.of_isOfLine {e : Event} (h : e.isOfLine) : e.OfStream := by
  cases e with
  | received reading => exact .received reading
  | malformed fault => exact .malformed fault
  | dropping fault => exact .dropping fault
  | _ => cases h

variable {e e' : Event}

/-! ## Lines of the log -/

theorem shown_level (level : Level) : Shown level.text.toList := by
  cases level <;> exact shown_of_isVisibleAscii (by decide)

theorem shown_target (e : Event) : Shown e.target.toList := by
  unfold target
  split <;> exact shown_of_isVisibleAscii (by decide)

theorem OfStream.shown_message (h : e.OfStream) : Shown e.message.toList := by
  unfold message
  cases h with
  | decoded size | skipped size | midLine size =>
    simp only [String.toList_append, shown_append_iff]
    exact ⟨⟨shown_of_isVisibleAscii (by decide), shown_toString_nat size⟩,
      shown_of_isVisibleAscii (by decide)⟩
  | received reading =>
    rw [String.toList_append, shown_append_iff]
    exact ⟨shown_of_isVisibleAscii (by decide), shown_toString_int _⟩
  | malformed fault | dropping fault =>
    rw [String.toList_append, shown_append_iff]
    exact ⟨shown_of_isVisibleAscii (by decide), fault.shown_message⟩
  | endOfStream => exact shown_of_isVisibleAscii (by decide)

/-- An event of a stream is one line of the log, and all of it can be shown. -/
theorem OfStream.shown_targetLine (h : e.OfStream) : Shown e.targetLine.toList := by
  unfold targetLine
  simp only [String.toList_append, shown_append_iff]
  exact ⟨⟨⟨⟨shown_level e.level, shown_of_isVisibleAscii (by decide)⟩, shown_target e⟩,
    shown_of_isVisibleAscii (by decide)⟩, h.shown_message⟩

/-- The first three letters of the words, which only the kind of the event decides. -/
def opening : Event → List Char
  | .buffer (.decoded _) => ['d', 'e', 'c']
  | .buffer (.skipped _) => ['d', 'i', 's']
  | .received _ => ['r', 'e', 'a']
  | .malformed _ => ['m', 'a', 'l']
  | .dropping _ => ['d', 'r', 'o']
  | .endOfStream => ['c', 'l', 'i']
  | .midLine _ => ['s', 't', 'r']
  | _ => []

theorem OfStream.take_message (h : e.OfStream) : e.message.toList.take 3 = e.opening := by
  unfold message
  cases h <;> simp [opening]

/-- The words tell the event, with the reading, the number or the fault it carries. -/
theorem OfStream.message_inj (h : e.OfStream) (h' : e'.OfStream) (hm : e.message = e'.message) :
    e = e' := by
  have hopening : e.opening = e'.opening := by
    rw [← h.take_message, ← h'.take_message, hm]
  cases h <;> cases h' <;> simp [opening] at hopening
  case decoded.decoded m n =>
    rw [toString_nat_inj ((String.append_right_inj _).1 ((String.append_left_inj _).1 hm))]
  case skipped.skipped m n =>
    rw [toString_nat_inj ((String.append_right_inj _).1 ((String.append_left_inj _).1 hm))]
  case received.received r r' =>
    rw [Reading.toString_value_inj ((String.append_right_inj _).1 hm)]
  case malformed.malformed fault fault' =>
    rw [LineFault.message_inj ((String.append_right_inj _).1 hm)]
  case dropping.dropping fault fault' =>
    rw [LineFault.message_inj ((String.append_right_inj _).1 hm)]
  case endOfStream.endOfStream => rfl
  case midLine.midLine m n =>
    rw [toString_nat_inj ((String.append_right_inj _).1 ((String.append_left_inj _).1 hm))]

theorem space_not_mem_level (level : Level) : ' ' ∉ level.text.toList := by
  cases level <;> decide

theorem space_not_mem_target (e : Event) : ' ' ∉ e.target.toList ++ [':'] := by
  unfold target
  split <;> decide

theorem toList_targetLine (e : Event) :
    e.targetLine.toList =
      e.level.text.toList ++ ' ' :: ((e.target.toList ++ [':']) ++ ' ' :: e.message.toList) := by
  simp [targetLine]

/-- The words stand behind the second space of a log line, so the line tells the event. -/
theorem OfStream.targetLine_inj (h : e.OfStream) (h' : e'.OfStream)
    (ht : e.targetLine = e'.targetLine) : e = e' := by
  have hlist := congrArg String.toList ht
  rw [toList_targetLine, toList_targetLine] at hlist
  obtain ⟨-, hbehind⟩ :=
    eq_of_append_cons_eq (space_not_mem_level _) (space_not_mem_level _) hlist
  obtain ⟨-, hmessage⟩ :=
    eq_of_append_cons_eq (space_not_mem_target e) (space_not_mem_target e') hbehind
  exact h.message_inj h' (String.toList_inj.1 hmessage)

/-- The lines of a log tell its events. -/
theorem map_targetLine_inj {events events' : List Event} (h : ∀ e ∈ events, e.OfStream)
    (h' : ∀ e ∈ events', e.OfStream) (ht : events.map targetLine = events'.map targetLine) :
    events = events' := by
  induction events generalizing events' with
  | nil => exact (List.map_eq_nil_iff.1 ht.symm).symm
  | cons e events ih =>
    cases events' with
    | nil => cases ht
    | cons e' events' =>
      obtain ⟨hfirst, hlater⟩ := List.cons.inj ht
      obtain ⟨he, hevents⟩ := List.forall_mem_cons.1 h
      obtain ⟨he', hevents'⟩ := List.forall_mem_cons.1 h'
      rw [he.targetLine_inj he' hfirst, ih hevents hevents' hlater]

end Event

/-! ## Whole sessions -/

namespace Receiver

variable {chunkSize : Nat} {steps : List ReadStep} {sink : Sink}

theorem ofStream_closing (r : Receiver) : ∀ e ∈ r.closing, e.OfStream := by
  intro e he
  rcases List.mem_cons.1 he with rfl | he
  · exact .endOfStream
  · split at he
    · cases he
    · rename_i tail _
      rcases List.mem_pair.1 he with rfl | rfl
      · exact .midLine _
      · exact .of_isOfLine (Event.isOfLine_ofResult (.ok tail))

/-- A session tells of the stream and its lines and of nothing else. -/
theorem ofStream_session {e : Event} (he : e ∈ (session chunkSize steps sink).events) :
    e.OfStream := by
  rw [(session_events chunkSize steps sink).1, takeAll_eq_drainEach] at he
  rcases List.mem_append.1 he with he | he
  · rcases mem_pulls he with ⟨note, rfl⟩ | hline
    · exact Event.ofStream_buffer note
    · exact .of_isOfLine hline
  · split at he
    · exact ofStream_closing _ e he
    · cases he

/-- Whatever is filtered out, all letters of a session's log lines can be shown. -/
theorem shown_logLines (filter : LogFilter) {line : String}
    (h : line ∈ ProgramReport.logLines filter (session chunkSize steps sink).events) :
    Shown line.toList := by
  obtain ⟨e, he, rfl⟩ := List.mem_map.1 h
  exact (ofStream_session (List.mem_of_mem_filter he)).shown_targetLine

/-- A session tells of each line of what it has written out once, in order: of the rest after the
last newline too if it comes to the end of its stream, and else only if that rest is over the
cap. -/
theorem lineOutcomes_session (chunkSize : Nat) (steps : List ReadStep) (sink : Sink) :
    let run := session chunkSize steps sink
    let taken := (Delivery.ofSteps chunkSize steps).chunks.take
      (run.sink.flushedAt.length - sink.flushedAt.length)
    run.events.filterMap Event.lineOutcome? =
      (match run.result with
      | .ok _ => streamLines taken.flatten
      | .error _ => reportedLines defaultLineCap taken.flatten).map
        (LineOutcome.ofLine defaultLineCap) := by
  intro run taken
  have hevents : run.events = (takeAll {} taken).2 ++
      (match run.result with
      | .ok _ => (takeAll {} taken).1.closing
      | .error _ => []) := (session_events chunkSize steps sink).1
  rw [hevents]
  cases run.result with
  | ok tally => exact (filterMap_wholeLog taken).1
  | error failure =>
    rw [List.append_nil]
    exact (told_of_takeAll taken).2.1

/-- **A peer can neither break the log nor forge it.** The words for a fault hold no newline, no
other control and nothing else that cannot be shown as it is, and they tell the fault with the text
it carries, whatever that text is. So it is with the log of a session. The session tells of each
line of the stream once; of what the filter lets through, every event is one line of the log, all
letters of which can be shown; and no two sessions write the same log unless they tell the same. -/
theorem session_log :
    (∀ fault : LineFault, Shown fault.message.toList) ∧
    Function.Injective LineFault.message ∧
    (∀ (chunkSize : Nat) (steps : List ReadStep) (sink : Sink),
      let run := session chunkSize steps sink
      let taken := (Delivery.ofSteps chunkSize steps).chunks.take
        (run.sink.flushedAt.length - sink.flushedAt.length)
      run.events.filterMap Event.lineOutcome? =
          (match run.result with
          | .ok _ => streamLines taken.flatten
          | .error _ => reportedLines defaultLineCap taken.flatten).map
            (LineOutcome.ofLine defaultLineCap) ∧
        ∀ filter : LogFilter,
          (∀ line ∈ ProgramReport.logLines filter run.events, Shown line.toList) ∧
          (writtenLog (ProgramReport.logLines filter run.events)).count '\n' =
            (run.events.filter filter.logs).length) ∧
    ∀ (filter : LogFilter) (chunkSize chunkSize' : Nat) (steps steps' : List ReadStep)
      (sink sink' : Sink),
      let events := (session chunkSize steps sink).events
      let events' := (session chunkSize' steps' sink').events
      writtenLog (ProgramReport.logLines filter events) =
        writtenLog (ProgramReport.logLines filter events') →
      events.filter filter.logs = events'.filter filter.logs := by
  refine ⟨LineFault.shown_message, fun _ _ h => LineFault.message_inj h, ?_, ?_⟩
  · intro chunkSize steps sink run taken
    refine ⟨lineOutcomes_session chunkSize steps sink, ?_⟩
    intro filter
    refine ⟨fun line hline => shown_logLines filter hline, ?_⟩
    rw [count_newline_writtenLog fun line hline => shown_logLines filter hline]
    exact List.length_map ..
  · intro filter chunkSize chunkSize' steps steps' sink sink' events events' hlog
    have hlines := writtenLog_inj (fun _ hline => shown_logLines filter hline)
      (fun _ hline => shown_logLines filter hline) hlog
    refine Event.map_targetLine_inj ?_ ?_ hlines
    · intro e he
      exact ofStream_session (List.mem_of_mem_filter he)
    · intro e he
      exact ofStream_session (List.mem_of_mem_filter he)

/-- A line of a letter and an accent above it. -/
def accentLine : Bytes := [101, 0xCC, 0x81, newline]

/-- A line that spells out how the accent is escaped. -/
def spelledLine : Bytes := [101, 92, 117, 123, 51, 48, 49, 125, newline]

theorem session_log_accentLine :
    Reading.ofLine accentLine = .error (.missingPrefix "e\u0301") ∧
    Reading.ofLine spelledLine = .error (.missingPrefix "e\\u\x7b301\x7d") ∧
    Shown (LineFault.missingPrefix "e\u0301").message.toList ∧
    (LineFault.missingPrefix "e\u0301").message ≠
      (LineFault.missingPrefix "e\\u\x7b301\x7d").message ∧
    writtenLog (ProgramReport.logLines [{}] (session 3 [.arrive accentLine] {}).events) ≠
      writtenLog (ProgramReport.logLines [{}] (session 5 [.arrive spelledLine] {}).events) := by
  obtain ⟨hshown, hinj, -, hlog⟩ := session_log
  refine ⟨by decide, by decide, hshown _, fun h => absurd (hinj h) (by decide), ?_⟩
  intro h
  have hlogged : ∀ events : List Event, events.filter (LogFilter.logs [{}]) = events := by
    intro events
    refine List.filter_eq_self.2 fun e _ => ?_
    cases e <;> rfl
  have hevents := hlog _ _ _ _ _ _ _ h
  rw [hlogged, hlogged] at hevents
  have hs : ({} : Sink).Reliable := ⟨rfl, by simp, by simp⟩
  have hd : Delivers [.arrive accentLine] accentLine := .arrive (by decide) .usedUp
  have hd' : Delivers [.arrive spelledLine] spelledLine := .arrive (by decide) .usedUp
  obtain ⟨tally, ht⟩ := exists_session_ok hd hs 3
  obtain ⟨tally', ht'⟩ := exists_session_ok hd' hs 5
  obtain ⟨-, -, -, houtcomes, -⟩ := told_of_ok hd ht
  obtain ⟨-, -, -, houtcomes', -⟩ := told_of_ok hd' ht'
  rw [hevents, houtcomes'] at houtcomes
  exact absurd houtcomes (by decide)

end Receiver

end AdcFeed

import AdcFeed.Proofs.LineGrammar
import AdcFeed.Proofs.Receiver.Decoding

/-!
A stream that stops inside a line, and the same stream with the newline that is missing. A line is
read alike with its newline and without unless a carriage return ends it
(`Reading.ofLine_append_newline`), and it meets the cap alike unless the newline is the one byte too
many. Main statement: sessions over the two streams tell the same of every line and count the same
readings and malformed lines, one byte apart (`session_append_newline`).
-/

namespace AdcFeed

/-! ## Texts that end in a newline -/

/-- Only the newline itself has a code that ends in its byte. -/
theorem eq_newline_of_getLast? {c : Char}
    (h : (String.utf8EncodeChar c).getLast? = some newline) : c = '\n' := by
  obtain ⟨before, hb⟩ := List.getLast?_eq_some_iff.1 h
  have hlen := congrArg List.length hb
  rw [List.length_append, List.length_singleton] at hlen
  have hlt : before.length < (String.utf8EncodeChar c).length := by omega
  have hlast : (String.utf8EncodeChar c)[before.length] = newline := by
    simp [hb]
  -- a byte that can begin a code stands at the front of one, so this code is that byte alone
  have hfirst : newline.IsUTF8FirstByte := .inl (by decide)
  rw [← hlast, UInt8.isUTF8FirstByte_getElem_utf8EncodeChar] at hfirst
  have hsize : c.utf8Size = 1 := by
    rw [← String.length_utf8EncodeChar]
    omega
  have hval : c.val.toUInt8 = newline := by
    simpa [String.utf8EncodeChar_eq_singleton hsize, hfirst] using hlast
  have hsmall := UInt32.le_iff_toNat_le.1 (Char.utf8Size_eq_one_iff.1 hsize)
  have hmod := congrArg UInt8.toNat hval
  rw [UInt32.toNat_toUInt8] at hmod
  simp only [UInt32.reduceToNat] at hsmall
  have hnewline : newline.toNat = '\n'.val.toNat := rfl
  exact Char.ext (UInt32.toNat_inj.1 (by omega))

/-- What is left of the bytes of a text without the newline at their end are the bytes of a text. -/
theorem exists_encodeText_of_append_newline {s : String} {bs : Bytes}
    (h : encodeText s = bs ++ [newline]) : ∃ t, encodeText t = bs := by
  rcases List.eq_nil_or_concat' s.toList with hnil | ⟨cs, c, hcs⟩
  · have hs : s = "" := String.toList_injective hnil
    subst hs
    simp [encodeText] at h
  · have hs : s = String.ofList cs ++ String.ofList [c] := by
      rw [← String.ofList_append, ← hcs, String.ofList_toList]
    have hcode : encodeText (String.ofList [c]) = String.utf8EncodeChar c := by
      rw [encodeText_ofList, List.flatMap_singleton]
    rw [hs, encodeText_append, hcode] at h
    have hlast := congrArg List.getLast? h
    rw [List.getLast?_append_of_ne_nil _ String.utf8EncodeChar_ne_nil,
      List.getLast?_concat] at hlast
    obtain rfl := eq_newline_of_getLast? hlast
    exact ⟨String.ofList cs, List.append_cancel_right h⟩

/-! ## The last line -/

/-- A line is read alike with its newline and without, unless a carriage return ends it. -/
theorem Reading.ofLine_append_newline {rest : Bytes} (hn : newline ∉ rest)
    (hr : ¬ [carriageReturn] <:+ rest) : ofLine (rest ++ [newline]) = ofLine rest := by
  by_cases htext : ∃ s, encodeText s = rest
  · obtain ⟨s, rfl⟩ := htext
    have hnewline : ¬ ['\n'] <:+ s.toList := by
      rintro ⟨cs, hcs⟩
      refine hn ?_
      rw [← String.ofList_toList (s := s), ← hcs, String.ofList_append, encodeText_append]
      exact List.mem_append_right _ List.mem_cons_self
    have hreturn : ¬ ['\r'] <:+ s.toList := by
      rintro ⟨cs, hcs⟩
      refine hr ?_
      rw [← String.ofList_toList (s := s), ← hcs, String.ofList_append, encodeText_append]
      exact List.suffix_append _ _
    have hline : encodeText s ++ [newline] = encodeText (s ++ "\n") := by
      rw [encodeText_append]
      rfl
    have hend : "\n".toList = ['\n'] := rfl
    rw [hline, ofLine_encodeText, ofLine_encodeText, String.toList_append, hend,
      stripLineEnd_newline hreturn, stripLineEnd_bare hnewline]
  · have hrest : ∀ s, encodeText s ≠ rest := fun s hs => htext ⟨s, hs⟩
    have hline : ∀ s, encodeText s ≠ rest ++ [newline] := fun s hs =>
      htext (exists_encodeText_of_append_newline hs)
    rw [ofLine_of_not_text hline, ofLine_of_not_text hrest]

/-- A line meets the cap alike with its newline and without, unless it fills the cap exactly. -/
theorem LineOutcome.ofLine_append_newline {cap : Nat} {rest : Bytes} (hn : newline ∉ rest)
    (hr : ¬ [carriageReturn] <:+ rest) (hl : rest.length ≠ cap) :
    ofLine cap (rest ++ [newline]) = ofLine cap rest := by
  unfold ofLine
  rw [Reading.ofLine_append_newline hn hr, List.length_append, List.length_singleton]
  have hcap : cap < rest.length + 1 ↔ cap < rest.length := by omega
  simp only [hcap]

theorem streamLines_append_last_newline (bs : Bytes) :
    streamLines (bs ++ [newline]) = (cutLines bs).1 ++ [(cutLines bs).2 ++ [newline]] := by
  unfold streamLines
  rw [rest_append_newline, if_pos rfl, List.append_nil, cutLines_append,
    cutLines_append_newline (newline_not_mem_rest bs)]
  rfl

/-- Where a stream stops inside a line, the newline that is missing changes nothing. -/
theorem streamOutcomes_append_newline {bs : Bytes} (hne : (cutLines bs).2 ≠ [])
    (hr : ¬ [carriageReturn] <:+ (cutLines bs).2)
    (hl : (cutLines bs).2.length ≠ 4096) :
    streamOutcomes (bs ++ [newline]) = streamOutcomes bs := by
  have hlast := LineOutcome.ofLine_append_newline (newline_not_mem_rest bs) hr hl
  unfold streamOutcomes
  rw [streamLines_append_last_newline, streamLines, if_neg hne]
  simp only [List.map_append, List.map_cons, List.map_nil, hlast]

/-! ## Whole sessions -/

/-- The value that an event tells of, if it tells of a reading. -/
def Event.receivedValue? : Event → Option Int32
  | .received reading => some reading.value
  | _ => none

/-- The value that a line came to, if it came to a reading. -/
def LineOutcome.value? : LineOutcome → Option Int32
  | .reading r => some r.value
  | _ => none

theorem filterMap_receivedValue? (events : List Event) :
    events.filterMap Event.receivedValue? =
      (events.filterMap Event.lineOutcome?).filterMap LineOutcome.value? := by
  rw [List.filterMap_filterMap]
  congr
  funext e
  cases e <;> rfl

namespace Receiver

variable {stream : Bytes} {steps steps' : List ReadStep}

/-- **A final newline that is lost changes no count but that of the bytes.** Where a stream stops
inside a line that no carriage return ends and that does not fill the cap exactly, sessions over it
and over it with its newline, with whatever reads and sinks, come to their ends with the same
readings and the same number of malformed lines, and tell the same of every line. -/
theorem session_append_newline (hne : (cutLines stream).2 ≠ [])
    (hr : ¬ [carriageReturn] <:+ (cutLines stream).2) (hl : (cutLines stream).2.length ≠ 4096)
    (hd : Delivers steps stream) (hd' : Delivers steps' (stream ++ [newline]))
    (chunkSize chunkSize' : Nat) (sink sink' : Sink) :
    let run := session chunkSize steps sink
    let run' := session chunkSize' steps' sink'
    (sink.Reliable → ∃ tally, run.result = .ok tally) ∧
    (sink'.Reliable → ∃ tally, run'.result = .ok tally) ∧
    ∀ tally tally', run.result = .ok tally → run'.result = .ok tally' →
      tally'.readings = tally.readings ∧
      tally'.malformed = tally.malformed ∧
      run'.events.filterMap Event.receivedValue? = run.events.filterMap Event.receivedValue? ∧
      run'.events.filterMap Event.lineOutcome? = run.events.filterMap Event.lineOutcome? ∧
      tally'.bytes = tally.bytes + 1 := by
  refine ⟨fun hs => exists_session_ok hd hs chunkSize,
    fun hs => exists_session_ok hd' hs chunkSize', ?_⟩
  intro tally tally' ht ht'
  obtain ⟨hbytes, hreadings, hmalformed, houtcomes, -⟩ := told_of_ok hd ht
  obtain ⟨hbytes', hreadings', hmalformed', houtcomes', -⟩ := told_of_ok hd' ht'
  rw [streamOutcomes_append_newline hne hr hl] at hreadings' hmalformed' houtcomes'
  refine ⟨?_, ?_, ?_, ?_, ?_⟩
  · rw [hreadings, hreadings']
  · rw [hmalformed, hmalformed']
  · rw [filterMap_receivedValue?, filterMap_receivedValue?, houtcomes, houtcomes']
  · rw [houtcomes, houtcomes']
  · rw [hbytes, hbytes', List.length_append, List.length_singleton]

/-- The line of the reading 7, then that of the reading -1 without its newline. -/
def unendedStream : Bytes := [65, 68, 67, 58, 32, 55, newline, 65, 68, 67, 58, 32, 45, 49]

theorem session_append_newline_unendedStream :
    (cutLines unendedStream).2 ≠ [] ∧ ¬ [carriageReturn] <:+ (cutLines unendedStream).2 ∧
      (cutLines unendedStream).2.length ≠ 4096 ∧
      Delivers [.arrive unendedStream] unendedStream ∧
      Delivers [.arrive unendedStream, .pending, .arrive [newline]] (unendedStream ++ [newline]) ∧
      ({} : Sink).Reliable ∧
      ∃ tally tally', (session 5 [.arrive unendedStream] {}).result = .ok tally ∧
        (session 3 [.arrive unendedStream, .pending, .arrive [newline]] {}).result = .ok tally' ∧
        tally'.readings = tally.readings ∧ tally'.malformed = tally.malformed ∧
        tally'.bytes = tally.bytes + 1 := by
  have hne : (cutLines unendedStream).2 ≠ [] := by decide
  have hr : ¬ [carriageReturn] <:+ (cutLines unendedStream).2 := by decide
  have hl : (cutLines unendedStream).2.length ≠ 4096 := by decide
  have hd : Delivers [.arrive unendedStream] unendedStream := .arrive (by decide) .usedUp
  have hd' : Delivers [.arrive unendedStream, .pending, .arrive [newline]]
      (unendedStream ++ [newline]) :=
    .arrive (by decide) (.pending (.arrive (by decide) .usedUp))
  have hs : ({} : Sink).Reliable := ⟨rfl, by simp, by simp⟩
  obtain ⟨hok, hok', hall⟩ := session_append_newline hne hr hl hd hd' 5 3 {} {}
  obtain ⟨tally, ht⟩ := hok hs
  obtain ⟨tally', ht'⟩ := hok' hs
  obtain ⟨hreadings, hmalformed, -, -, hbytes⟩ := hall tally tally' ht ht'
  exact ⟨hne, hr, hl, hd, hd', hs, tally, tally', ht, ht', hreadings, hmalformed, hbytes⟩

end Receiver

end AdcFeed

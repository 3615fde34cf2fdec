import AdcFeed.Proofs.Line
import AdcFeed.Proofs.Receiver.Transcript

/-!
The transcript with its prefixes taken out. In a text without the first byte of a pattern no
occurrence of it starts, so the occurrences in a transcript of such a text are the prefixes that
were written (`takeOut_echoed`). Main statement: for the lines of readings, cut off anywhere, what
is left of the transcript is what was received, and as many prefixes were taken out as chunks were
read (`withoutPrefixes_session`).
-/

namespace AdcFeed

/-! ## Taking out a pattern -/

/-- The bytes of an occurrence already found are passed over. -/
theorem takeOut_eq_drop (pattern : Bytes) (n : Nat) (bs : Bytes) :
    takeOut pattern n bs = takeOut pattern 0 (bs.drop n) := by
  induction bs generalizing n with
  | nil => rw [List.drop_nil, takeOut, takeOut]
  | cons b bs ih =>
    cases n with
    | zero => rfl
    | succ n =>
      rw [takeOut, if_pos (Nat.succ_pos n), List.drop_succ_cons]
      exact ih n

variable {p : UInt8} {ps : Bytes}

theorem takeOut_pattern_append (p : UInt8) (ps bs : Bytes) :
    takeOut (p :: ps) 0 (p :: ps ++ bs) =
      ((takeOut (p :: ps) 0 bs).1, (takeOut (p :: ps) 0 bs).2 + 1) := by
  have hfound : (p :: ps).isPrefixOf (p :: (ps ++ bs)) :=
    List.isPrefixOf_iff_prefix.2 (List.prefix_append (p :: ps) bs)
  have hlater : takeOut (p :: ps) ((p :: ps).length - 1) (ps ++ bs) = takeOut (p :: ps) 0 bs := by
    rw [takeOut_eq_drop, List.length_cons, Nat.add_sub_cancel, List.drop_left]
  rw [List.cons_append, takeOut, if_neg (Nat.lt_irrefl 0), if_pos hfound, hlater]

/-- No occurrence starts in a text without the first byte of the pattern. -/
theorem takeOut_append_of_not_mem {text : Bytes} (h : p ∉ text) (bs : Bytes) :
    takeOut (p :: ps) 0 (text ++ bs) =
      (text ++ (takeOut (p :: ps) 0 bs).1, (takeOut (p :: ps) 0 bs).2) := by
  induction text with
  | nil => rfl
  | cons b text ih =>
    obtain ⟨hb, htext⟩ := List.ne_and_not_mem_of_not_mem_cons h
    have hnot : ¬ (p :: ps).isPrefixOf (b :: (text ++ bs)) := by
      intro hp
      exact hb (List.cons_prefix_cons.1 (List.isPrefixOf_iff_prefix.1 hp)).1
    rw [List.cons_append, takeOut, if_neg (Nat.lt_irrefl 0), if_neg hnot, ih htext]
    rfl

/-! ## Prefixes in a transcript -/

/-- The first byte of the prefix. -/
def prefixByte : UInt8 := 'R'.val.toUInt8

theorem encodeText_received :
    encodeText "Received: " = prefixByte :: encodeText "eceived: " := rfl

/-- Of chunks without the first byte of the prefix, all that is taken out is the prefixes. -/
theorem takeOut_echoed {chunks : List Bytes} (h : prefixByte ∉ chunks.flatten) :
    takeOut (encodeText "Received: ") 0 (chunks.map echoed).flatten =
      (chunks.flatten, chunks.length) := by
  rw [encodeText_received]
  induction chunks with
  | nil => rfl
  | cons chunk chunks ih =>
    rw [List.flatten_cons, List.mem_append, not_or] at h
    rw [List.map_cons, List.flatten_cons, echoed, encodeText_received, List.append_assoc,
      takeOut_pattern_append, takeOut_append_of_not_mem h.1, ih h.2]
    rfl

theorem Reading.prefixByte_not_mem_encode (r : Reading) : prefixByte ∉ r.encode := by
  rw [r.encode_eq_ofList]
  refine byte_not_mem_encodeText r.ascii_line rfl ?_
  rw [r.toList_text, List.mem_append]
  rintro (hc | hc)
  · exact absurd (mem_readingLetters (isDecimal_toDigits _) hc) (by decide)
  · exact absurd hc (by decide)

namespace Receiver

variable {steps : List ReadStep} {stream : Bytes}

/-- **Without its prefixes, the transcript is what was sent.** However the lines of readings, or any
first part of them, arrive and are read, a session whose sink does not fail comes to their end, and
taking out every occurrence of the prefix from left to right leaves the bytes received, one
occurrence for each chunk. -/
theorem withoutPrefixes_session {readings : List Reading} (hd : Delivers steps stream)
    (hp : stream <+: (readings.map Reading.encode).flatten) (chunkSize : Nat) (sink : Sink) :
    let run := session chunkSize steps sink
    (sink.Reliable → ∃ tally, run.result = .ok tally) ∧
      ∀ tally, run.result = .ok tally →
        ∃ transcript, run.sink.out = sink.out ++ transcript ∧
          takeOut (encodeText "Received: ") 0 transcript = (stream, tally.chunks) := by
  refine ⟨fun hs => exists_session_ok hd hs chunkSize, ?_⟩
  intro tally ht
  obtain ⟨htally, -, hpassed⟩ := session_of_ok ht
  have hstream := (flatten_ofSteps hd chunkSize).1
  have hbyte : prefixByte ∉ stream := by
    intro hm
    obtain ⟨line, hline, hm⟩ := List.mem_flatten.1 (hp.subset hm)
    obtain ⟨r, -, rfl⟩ := List.mem_map.1 hline
    exact r.prefixByte_not_mem_encode hm
  refine ⟨((Delivery.ofSteps chunkSize steps).chunks.map echoed).flatten, ?_, ?_⟩
  · rw [(transcribed_of_passed hpassed).out_eq, List.append_nil]
  · rw [takeOut_echoed (hstream.symm ▸ hbyte), hstream, htally, wholeTally_eq]

/-- The line of the reading -7 and a part of that of 1023, which arrive in two pieces. -/
def cutSteps : List ReadStep :=
  [.arrive [65, 68, 67, 58, 32, 45, 55], .pending, .arrive [newline, 65, 68, 67, 58, 32, 49, 48]]

theorem withoutPrefixes_session_cutSteps :
    Delivers cutSteps [65, 68, 67, 58, 32, 45, 55, newline, 65, 68, 67, 58, 32, 49, 48] ∧
      [65, 68, 67, 58, 32, 45, 55, newline, 65, 68, 67, 58, 32, 49, 48] <+:
        (([⟨-7⟩, ⟨1023⟩] : List Reading).map Reading.encode).flatten ∧ ({} : Sink).Reliable ∧
      ∃ tally, (session 4 cutSteps {}).result = .ok tally ∧
        takeOut (encodeText "Received: ") 0 (session 4 cutSteps {}).sink.out =
          ([65, 68, 67, 58, 32, 45, 55, newline, 65, 68, 67, 58, 32, 49, 48], tally.chunks) := by
  have hd : Delivers cutSteps [65, 68, 67, 58, 32, 45, 55, newline, 65, 68, 67, 58, 32, 49, 48] :=
    .arrive (by decide) (.pending (.arrive (by decide) .usedUp))
  have hp : [65, 68, 67, 58, 32, 45, 55, newline, 65, 68, 67, 58, 32, 49, 48] <+:
      (([⟨-7⟩, ⟨1023⟩] : List Reading).map Reading.encode).flatten := by decide +kernel
  have hs : ({} : Sink).Reliable := ⟨rfl, by simp, by simp⟩
  obtain ⟨hok, hall⟩ := withoutPrefixes_session hd hp 4 {}
  obtain ⟨tally, ht⟩ := hok hs
  obtain ⟨transcript, hout, htaken⟩ := hall tally ht
  exact ⟨hd, hp, hs, tally, ht, by rw [hout]; exact htaken⟩

end Receiver

end AdcFeed

import AdcFeed.Proofs.PartialLine
import AdcFeed.Proofs.Receiver.Decoding
import AdcFeed.Proofs.Sender.Run

/-!
The two sides together. What the sending side wrote, cut off wherever its run ended, is what the
receiving side reads. Main statement: the receiving side makes of it the readings that were sent and
of the line that was cut off what arrived of its digits, or one fault (`received_of_sent`).
-/

namespace AdcFeed

/-- What the line of a reading comes to of which only a part arrives. -/
inductive Arrived (next : Reading) (part : Bytes) : List LineOutcome → Prop
  | nothing (h : part = []) : Arrived next part []
  /-- Digits arrived; they give the reading of the line only if they are all its digits. -/
  | digits {r : Reading} (h : Spells part r.value.toInt)
      (hr : r = next ↔ part = encodeText next.text ∨ part = next.encode) :
      Arrived next part [.reading r]
  /-- Something arrived, but no digits. -/
  | fault {fault : LineFault} (h : part ≠ []) (hn : ∀ value, ¬ Spells part value) :
      Arrived next part [.malformed fault]

variable {r next : Reading} {part : Bytes}

/-! ## Lines of readings in a stream -/

theorem streamLines_append_newline {body : Bytes} (h : newline ∉ body) (bs : Bytes) :
    streamLines (body ++ newline :: bs) = (body ++ [newline]) :: streamLines bs := by
  unfold streamLines
  rw [cutLines_append_newline h, List.cons_append]

theorem streamLines_encode_append (r : Reading) (bs : Bytes) :
    streamLines (r.encode ++ bs) = r.encode :: streamLines bs := by
  rw [r.encode_eq, List.append_assoc]
  exact streamLines_append_newline r.newline_not_mem_text bs

theorem ofLine_of_length_le {line : Bytes} (h : line.length ≤ 17) :
    LineOutcome.ofLine 4096 line =
      match Reading.ofLine line with
      | .ok r => .reading r
      | .error fault => .malformed fault :=
  if_neg (by omega)

/-- Each line of a reading comes to the reading, whatever follows. -/
theorem streamOutcomes_encode_append (r : Reading) (bs : Bytes) :
    streamOutcomes (r.encode ++ bs) = .reading r :: streamOutcomes bs := by
  unfold streamOutcomes
  rw [streamLines_encode_append, List.map_cons, ofLine_of_length_le r.length_encode.2,
    r.ofLine_encode]

theorem streamOutcomes_encodes_append (rs : List Reading) (bs : Bytes) :
    streamOutcomes ((rs.map Reading.encode).flatten ++ bs) =
      rs.map .reading ++ streamOutcomes bs := by
  induction rs with
  | nil => rfl
  | cons r rs ih =>
    rw [List.map_cons, List.flatten_cons, List.append_assoc, streamOutcomes_encode_append, ih]
    rfl

/-! ## A line cut off -/

theorem streamLines_part (hp : part <+: next.encode) :
    streamLines part = if part = [] then [] else [part] := by
  rw [next.encode_eq] at hp
  rcases List.prefix_concat_iff.1 hp with rfl | hp
  · rw [← next.encode_eq]
    have h := streamLines_encode_append next []
    rw [List.append_nil] at h
    rw [h, if_neg (List.length_pos_iff.1 (by have := next.length_encode; omega))]
    rfl
  · have hn : newline ∉ part := by
      intro hm
      exact next.newline_not_mem_text (hp.subset hm)
    simp [streamLines, cutLines_of_not_mem hn]

/-- A line cut off comes to a reading if digits of it arrived, and to one fault otherwise. -/
theorem arrived_streamOutcomes (hp : part <+: next.encode) :
    Arrived next part (streamOutcomes part) := by
  unfold streamOutcomes
  rw [streamLines_part hp]
  by_cases hne : part = []
  · rw [if_pos hne]
    exact .nothing hne
  · have hlen : part.length ≤ 17 := hp.length_le.trans next.length_encode.2
    rw [if_neg hne, List.map_singleton, ofLine_of_length_le hlen]
    rcases ofLine_part hp with ⟨s, hs, hspells, heq⟩ | ⟨fault, hf, hn⟩
    · rw [hs]
      exact .digits hspells heq
    · rw [hf]
      exact .fault hne hn

theorem Arrived.countP_le {last : List LineOutcome} (h : Arrived next part last) :
    last.countP LineOutcome.isReading + last.countP (!LineOutcome.isReading ·) ≤ 1 := by
  cases h <;> simp [LineOutcome.isReading]

theorem countP_map_reading (rs : List Reading) :
    (rs.map LineOutcome.reading).countP LineOutcome.isReading = rs.length ∧
      (rs.map LineOutcome.reading).countP (!LineOutcome.isReading ·) = 0 := by
  constructor
  · rw [List.countP_map]
    exact List.countP_eq_length.2 fun _ _ => rfl
  · rw [List.countP_map]
    exact List.countP_eq_zero.2 fun _ _ => Bool.false_ne_true

/-! ## From the sampler to the events -/

/-- **Both sides agree on what was sent, wherever the stream is cut.** The sink of a run that ends
has taken the lines of the readings counted and a part of the next line. However these bytes arrive
at the receiving side, it comes to their end if its own sink does not fail, and it has told of the
readings counted, in order, and at the end of what arrived of the line that was cut off. -/
theorem received_of_sent {σ : Type} [Sampler σ] (sampler : σ) (delay : Nat) (limit : Option Nat)
    (sink : Sink) {k : Nat}
    (h : (Sender.run delay limit { sampler, sink }).result = .finished k ∨
      ∃ e, (Sender.run delay limit { sampler, sink }).result = .failed k e) :
    let run := Sender.run delay limit { sampler, sink }
    let sent := Sampler.take sampler k
    let next := Sampler.reading sampler k
    ∃ part, part <+: next.encode ∧ (run.result = .finished k → part = []) ∧
      run.sender.sink.out = sink.out ++ ((sent.map Reading.encode).flatten ++ part) ∧
      ∀ steps, Delivers steps ((sent.map Reading.encode).flatten ++ part) →
        ∀ (chunkSize : Nat) (transcript : Sink),
          let session := Receiver.session chunkSize steps transcript
          (transcript.Reliable → ∃ tally, session.result = .ok tally) ∧
          ∀ tally, session.result = .ok tally →
            ∃ last, Arrived next part last ∧
              session.events.filterMap Event.lineOutcome? = sent.map .reading ++ last ∧
              (tally.readings + tally.malformed = k ∨ tally.readings + tally.malformed = k + 1) ∧
              tally.malformed ≤ 1 := by
  -- the sending side fixes the bytes, and from here on only they count
  obtain ⟨part, hpart, hout, hfinished⟩ := Sender.exists_part rfl h
  rw [List.append_assoc] at hout
  refine ⟨part, hpart, hfinished, hout, ?_⟩
  intro steps hd chunkSize transcript
  refine ⟨fun hs => Receiver.exists_session_ok hd hs chunkSize, ?_⟩
  intro tally ht
  obtain ⟨-, hreadings, hmalformed, houtcomes, -⟩ := Receiver.told_of_ok hd ht
  rw [streamOutcomes_encodes_append] at hreadings hmalformed houtcomes
  have hlast := arrived_streamOutcomes hpart
  have hle := hlast.countP_le
  obtain ⟨hsent, hfaults⟩ := countP_map_reading (Sampler.take sampler k)
  rw [Sampler.length_take] at hsent
  rw [List.countP_append, hsent] at hreadings
  rw [List.countP_append, hfaults] at hmalformed
  refine ⟨_, hlast, houtcomes, ?_, ?_⟩
  · omega
  · omega

/-- A run into a sink that has room for the first line and the second up to its second digit. -/
def cutRun : SendRun Replay :=
  Sender.run 0 none { sampler := ⟨⟨345⟩, [⟨-12⟩]⟩, sink := { room := some 16 } }

theorem received_of_sent_cutRun :
    cutRun.result = .failed 1 .full ∧ ({} : Sink).Reliable ∧
      ∃ steps, Delivers steps cutRun.sender.sink.out ∧
        ∃ tally, (Receiver.session 3 steps {}).result = .ok tally ∧
          (tally.readings + tally.malformed = 1 ∨ tally.readings + tally.malformed = 2) ∧
          tally.malformed ≤ 1 := by
  have hr : cutRun.result = .failed 1 .full := by decide +kernel
  have hs : ({} : Sink).Reliable := ⟨rfl, by simp, by simp⟩
  obtain ⟨part, -, -, hout, hall⟩ :=
    received_of_sent (⟨⟨345⟩, [⟨-12⟩]⟩ : Replay) 0 none { room := some 16 } (.inr ⟨_, hr⟩)
  have hne : cutRun.sender.sink.out ≠ [] := by decide +kernel
  have hd : Delivers [.arrive cutRun.sender.sink.out] (cutRun.sender.sink.out ++ []) :=
    .arrive hne .usedUp
  rw [List.append_nil] at hd
  obtain ⟨hok, hcounts⟩ := hall [.arrive cutRun.sender.sink.out] (by
    convert hd using 1
    exact hout.symm) 3 {}
  obtain ⟨tally, ht⟩ := hok hs
  obtain ⟨-, -, -, hsum, hle⟩ := hcounts tally ht
  exact ⟨hr, hs, _, hd, tally, ht, hsum, hle⟩

end AdcFeed

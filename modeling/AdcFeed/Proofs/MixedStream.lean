import AdcFeed.Proofs.Line
import AdcFeed.Proofs.LineBuffer.History

/-!
Readings among other lines. A stream of items, each the line of a reading or any bytes up to a
newline, is received in chunks and its lines are read. Main statement: whatever the chunks and the
junk, each item comes to one outcome, a reading to itself and junk to what its line alone comes to,
and nothing is left (`decoded_of_items`).
-/

namespace AdcFeed

/-- One line of a stream: that of a reading, or any other bytes and a newline. -/
inductive StreamItem where
  | reading (reading : Reading)
  | junk (body : Bytes) (h : newline ∉ body)

namespace StreamItem

/-- The item as it travels. -/
def bytes : StreamItem → Bytes
  | .reading r => r.encode
  | .junk body _ => body ++ [newline]

/-- What an item comes to under a cap. Only of junk over the cap it is open how many bytes were gone
when this was seen. -/
inductive Outcome (cap : Nat) : StreamItem → Except LineFault Reading → Prop
  | reading (r : Reading) : Outcome cap (.reading r) (.ok r)
  | junk (body : Bytes) (h : newline ∉ body) (hl : body.length + 1 ≤ cap) :
      Outcome cap (.junk body h) (Reading.ofLine (body ++ [newline]))
  | overlong (body : Bytes) (h : newline ∉ body) {dropped : Nat} (hd : cap < dropped)
      (hl : dropped ≤ body.length + 1) : Outcome cap (.junk body h) (.error (.tooLong cap dropped))

theorem exists_body (item : StreamItem) :
    ∃ body, newline ∉ body ∧ item.bytes = body ++ [newline] := by
  cases item with
  | reading r => exact ⟨_, r.newline_not_mem_text, r.encode_eq⟩
  | junk body h => exact ⟨body, h, rfl⟩

/-- The lines of a stream of items are its items, and there is no rest. -/
theorem reportedLines_flatten (cap : Nat) (items : List StreamItem) :
    reportedLines cap (items.map bytes).flatten = items.map bytes ∧
      keptRest cap (items.map bytes).flatten = none := by
  induction items with
  | nil => exact ⟨reportedLines_nil cap, keptRest_nil cap⟩
  | cons item items ih =>
    obtain ⟨body, hbody, hbytes⟩ := item.exists_body
    rw [List.map_cons, List.flatten_cons, hbytes, List.append_assoc, List.singleton_append,
      reportedLines_append_newline cap hbody, keptRest_append_newline cap hbody, ih.1]
    exact ⟨rfl, ih.2⟩

/-- The line of a reading is never over the cap, so it is read whole. -/
theorem outcome_of_told {cap : Nat} (hcap : 17 ≤ cap) {item : StreamItem}
    {r : Except LineFault Bytes} (h : Told cap item.bytes r) :
    Outcome cap item (r.bind Reading.ofLine) := by
  cases item with
  | reading reading =>
    have hlen : reading.encode.length ≤ 17 := reading.length_encode.2
    cases h with
    | whole h =>
      simp only [bytes, Except.bind, reading.ofLine_encode]
      exact .reading reading
    | overlong h hd =>
      simp only [bytes] at hd
      omega
  | junk body hbody =>
    cases h with
    | whole h => exact .junk body hbody (by simpa [bytes] using h)
    | overlong h hd => exact .overlong body hbody h (by simpa [bytes] using hd)

theorem outcomes_of_readings {cap : Nat} {readings : List Reading}
    {outcomes : List (Except LineFault Reading)}
    (h : List.Forall₂ (Outcome cap) (readings.map .reading) outcomes) :
    outcomes = readings.map .ok := by
  induction readings generalizing outcomes with
  | nil =>
    cases h
    rfl
  | cons r readings ih =>
    cases h with
    | cons hr h =>
      cases hr
      rw [ih h, List.map_cons]

end StreamItem

/-- What pulls come to when each line that was taken is read. -/
def decoded (pulls : List Pull) : List (Except LineFault Reading) :=
  (LineBuffer.results pulls).map (·.bind Reading.ofLine)

/-- **Readings survive any junk around them.** Under a cap that holds the longest line of a reading,
push a stream of items in any chunks, pull whenever you like and at last until nothing is left: each
item has come to its one outcome, in order, and no bytes are left. So readings alone come to
themselves. -/
theorem decoded_of_items {m : Nat} (hm : 17 ≤ m) (items : List StreamItem)
    (calls : List LineBuffer.Call)
    (hp : LineBuffer.pushed calls = (items.map StreamItem.bytes).flatten) :
    let (pulls, b) := (LineBuffer.empty m).history calls
    let outcomes := decoded (pulls ++ b.drain)
    List.Forall₂ (StreamItem.Outcome m) items outcomes ∧ b.drained.tail? = none ∧
      ∀ readings : List Reading, items = readings.map .reading → outcomes = readings.map .ok := by
  have hcap : (LineBuffer.empty m).cap = m := Nat.max_eq_left (by omega)
  have hahead : (LineBuffer.empty m).ahead (LineBuffer.pushed calls) =
      (items.map StreamItem.bytes).flatten := hp
  obtain ⟨htold, htail⟩ := LineBuffer.drain_told (LineBuffer.sound_empty m) calls
  obtain ⟨hlines, hrest⟩ := StreamItem.reportedLines_flatten m items
  rw [hcap, hahead] at htold htail
  rw [hlines, List.forall₂_map_left_iff] at htold
  have houtcomes : List.Forall₂ (StreamItem.Outcome m) items
      (decoded (((LineBuffer.empty m).history calls).1 ++
        ((LineBuffer.empty m).history calls).2.drain)) := by
    rw [decoded, List.forall₂_map_right_iff]
    exact htold.imp fun item r h => StreamItem.outcome_of_told hm h
  refine ⟨houtcomes, htail.trans hrest, ?_⟩
  rintro readings rfl
  exact StreamItem.outcomes_of_readings houtcomes

/-- Junk over the cap, the reading with the longest line, and a short line. -/
def mixedItems : List StreamItem :=
  [.junk (List.replicate 40 65) (by decide), .reading ⟨-2147483648⟩, .junk [120] (by decide)]

/-- The items in chunks that end inside the junk and inside the reading. -/
def mixedCalls : List LineBuffer.Call :=
  [.push (List.replicate 18 65), .next, .push (List.replicate 22 65 ++ [newline, 65, 68, 67]),
    .next, .push [58, 32, 45, 50, 49, 52, 55, 52, 56, 51, 54, 52, 56, newline, 120], .next,
    .push [newline]]

theorem decoded_of_items_mixedCalls :
    17 ≤ 17 ∧ LineBuffer.pushed mixedCalls = (mixedItems.map StreamItem.bytes).flatten ∧
      (let (pulls, b) := (LineBuffer.empty 17).history mixedCalls
      List.Forall₂ (StreamItem.Outcome 17) mixedItems (decoded (pulls ++ b.drain)) ∧
        b.drained.tail? = none) := by
  have hp : LineBuffer.pushed mixedCalls = (mixedItems.map StreamItem.bytes).flatten := by
    decide +kernel
  obtain ⟨houtcomes, htail, -⟩ := decoded_of_items (Nat.le_refl 17) mixedItems mixedCalls hp
  exact ⟨Nat.le_refl 17, hp, houtcomes, htail⟩

end AdcFeed

import AdcFeed.Proofs.CommandLine.Layout
import AdcFeed.Proofs.Text.Decimal
import Mathlib.Data.List.Nodup

/-!
What a command line has gathered, piece by piece. `Stores` puts the values of pieces into what has
been gathered, one after the other, and knows nothing of arguments. A state of the reader keeps its
last value unchecked while the arguments go on. Main statements: each way to take a value is one
more piece that is stored, whatever is done later (`gathers_takeValue`, `gathers_option`,
`gathers_acceptOption`).
-/

namespace AdcFeed

variable {α : Type}

theorem bind_eq_ok_iff {ε β γ : Type} {x : Except ε β} {f : β → Except ε γ} {c : γ} :
    x >>= f = .ok c ↔ ∃ b, x = .ok b ∧ f b = .ok c := by
  cases x with
  | error e => simp [bind, Except.bind]
  | ok b => simp [bind, Except.bind]

theorem exists_foldlM_cons_iff {ε β γ : Type} {f : β → γ → Except ε β} {P : β → Prop} {b : β}
    {x : γ} {xs : List γ} :
    (∃ t, (x :: xs).foldlM f b = .ok t ∧ P t) ↔
      ∃ b', f b x = .ok b' ∧ ∃ t, xs.foldlM f b' = .ok t ∧ P t := by
  simp only [List.foldlM_cons, bind_eq_ok_iff]
  constructor
  · rintro ⟨t, ⟨b', hb', ht⟩, hP⟩
    exact ⟨b', hb', t, ht, hP⟩
  · rintro ⟨b', hb', t, ht, hP⟩
    exact ⟨t, ⟨b', hb', ht⟩, hP⟩

/-- What has been gathered, the positional parameters still to come, and the names of the options
given. -/
structure Gathering (α : Type) where
  values : α
  positionals : List (Parameter α)
  given : List String

/-- The value of a piece is put into what has been gathered: that of a positional by the next
parameter, and that of an option, which must not have been given, by the option of its name. -/
inductive Stored (options : List (NamedParameter α)) : Gathering α → Piece → Gathering α → Prop
  | positional {a b : α} {p : Parameter α} {positionals : List (Parameter α)}
      {given : List String} {value : Bytes} (h : p.accept a value = .ok b) :
      Stored options ⟨a, p :: positionals, given⟩ (.positional value) ⟨b, positionals, given⟩
  | option {a b : α} {p : NamedParameter α} {positionals : List (Parameter α)}
      {given : List String} {value : Bytes} (hp : p ∈ options) (hn : p.name ∉ given)
      (h : p.accept a value = .ok b) :
      Stored options ⟨a, positionals, given⟩ (.option p.name value)
        ⟨b, positionals, p.name :: given⟩

/-- The values of pieces are put into what has been gathered one after the other. -/
inductive Stores (options : List (NamedParameter α)) :
    Gathering α → List Piece → Gathering α → Prop
  | nil (a : Gathering α) : Stores options a [] a
  | cons {a b c : Gathering α} {piece : Piece} {pieces : List Piece}
      (h : Stored options a piece b) (later : Stores options b pieces c) :
      Stores options a (piece :: pieces) c

section Stores

variable {options : List (NamedParameter α)} {a b c : Gathering α} {pieces more : List Piece}
  {value : Bytes}

@[simp] theorem stores_nil_iff : Stores options a [] c ↔ c = a := by
  constructor
  · rintro ⟨⟩
    rfl
  · rintro rfl
    exact .nil c

theorem Stores.append (h : Stores options a pieces b) (h' : Stores options b more c) :
    Stores options a (pieces ++ more) c := by
  induction h with
  | nil => exact h'
  | cons h _ ih => exact .cons h (ih h')

theorem Stores.exists_of_append (h : Stores options a (pieces ++ more) c) :
    ∃ b, Stores options a pieces b ∧ Stores options b more c := by
  induction pieces generalizing a with
  | nil => exact ⟨a, .nil a, h⟩
  | cons piece pieces ih =>
    cases h with
    | cons h later =>
      obtain ⟨b, hb, hc⟩ := ih later
      exact ⟨b, .cons h hb, hc⟩

/-- The options given in the end are those given before and those of the pieces. -/
theorem Stores.mem_given (h : Stores options a pieces c) {name : String} :
    name ∈ c.given ↔ name ∈ a.given ∨ name ∈ optionNames pieces := by
  induction h with
  | nil a => simp
  | cons h later ih =>
    rw [ih]
    cases h with
    | positional h => rw [optionNames_positional]
    | option hp hn h => simp [or_left_comm, or_assoc]

theorem stores_positional_iff :
    Stores options a (.positional value :: pieces) c ↔
      ∃ p positionals b, a.positionals = p :: positionals ∧ p.accept a.values value = .ok b ∧
        Stores options ⟨b, positionals, a.given⟩ pieces c := by
  constructor
  · intro h
    cases h with
    | cons h later =>
      cases h with
      | positional h => exact ⟨_, _, _, rfl, h, later⟩
  · rintro ⟨p, positionals, b, hp, h, later⟩
    obtain ⟨values, _, given⟩ := a
    cases hp
    exact .cons (.positional h) later

theorem stores_option_iff (hnodup : (options.map fun p => p.name).Nodup) {p : NamedParameter α}
    (hp : p ∈ options) :
    Stores options a (.option p.name value :: pieces) c ↔
      p.name ∉ a.given ∧ ∃ b, p.accept a.values value = .ok b ∧
        Stores options ⟨b, a.positionals, p.name :: a.given⟩ pieces c := by
  constructor
  · intro h
    generalize hname : p.name = name at h
    cases h with
    | cons h later =>
      cases h with
      | option hp' hn h =>
        obtain rfl := List.inj_on_of_nodup_map hnodup hp' hp hname.symm
        exact ⟨hn, _, h, later⟩
  · rintro ⟨hn, b, h, later⟩
    exact .cons (.option hp hn h) later

end Stores

namespace CommandState

variable {s t : CommandState α} {value : Bytes}

/-- What a state has gathered without the value not yet checked. -/
def gathering (s : CommandState α) : Gathering α := ⟨s.gathered, s.positionals, s.given⟩

/-- An option was met, and its value is the next argument. -/
def Waiting (s : CommandState α) : Prop := ∃ p, s.pending = .option p none

/-- The value not yet checked can be stored, and after it the values of the pieces. -/
def Gathers (s : CommandState α) (options : List (NamedParameter α)) (pieces : List Piece)
    (c : Gathering α) : Prop :=
  ∃ s', s.settle = .ok s' ∧ Stores options s'.gathering pieces c

/-! ## One value -/

theorem acceptOption_eq_ok_iff {p : NamedParameter α} :
    s.acceptOption p value = .ok t ↔
      p.name ∉ s.given ∧ ∃ b, p.accept s.gathered value = .ok b ∧
        t = { s with gathered := b, given := p.name :: s.given } := by
  unfold acceptOption
  by_cases hn : p.name ∈ s.given
  · simp [hn]
  · rw [if_neg hn, map_eq_ok_iff]
    simp [hn]

theorem settle_of_none (h : s.pending = .none) : s.settle = .ok s := by
  rw [settle, h]

theorem settle_of_positional {p : Parameter α} (hp : s.pending = .positional p value) :
    s.settle = .ok t ↔
      ∃ b, p.accept s.gathered value = .ok b ∧ t = { s with gathered := b, pending := .none } := by
  rw [settle, hp]
  simp only
  rw [map_eq_ok_iff]

theorem settle_of_option {p : NamedParameter α} (hp : s.pending = .option p (some value)) :
    s.settle = .ok t ↔
      p.name ∉ s.given ∧ ∃ b, p.accept s.gathered value = .ok b ∧
        t = { s with gathered := b, given := p.name :: s.given, pending := .none } := by
  rw [settle, hp]
  simp only
  rw [acceptOption_eq_ok_iff]

/-- Once the value that is pending has been checked, none is, and what was to come still is. -/
theorem settle_eq_ok (h : s.settle = .ok t) :
    ¬ s.Waiting ∧ t.pending = .none ∧ t.positionals = s.positionals ∧
      t.onlyPositionals = s.onlyPositionals := by
  unfold Waiting
  cases hp : s.pending with
  | none =>
    rw [settle_of_none hp] at h
    cases h
    exact ⟨by simp, hp, rfl, rfl⟩
  | positional p value =>
    obtain ⟨b, -, rfl⟩ := (settle_of_positional hp).1 h
    exact ⟨by simp, rfl, rfl, rfl⟩
  | option p value =>
    cases value with
    | none =>
      rw [settle, hp] at h
      cases h
    | some value =>
      obtain ⟨-, b, -, rfl⟩ := (settle_of_option hp).1 h
      exact ⟨by simp, rfl, rfl, rfl⟩

theorem takeValue_of_waiting {p : NamedParameter α} (ho : s.onlyPositionals = false)
    (h : s.pending = .option p none) :
    s.takeValue value = .ok { s with pending := .option p (some value) } := by
  rw [takeValue, ho, h]

theorem takeValue_eq_ok_iff (h : s.onlyPositionals = true ∨ ¬ s.Waiting) :
    s.takeValue value = .ok t ↔
      ∃ p positionals s', s.positionals = p :: positionals ∧ s.settle = .ok s' ∧
        t = { s' with positionals, pending := .positional p value } := by
  unfold takeValue
  split
  · rename_i ho hp
    rcases h with h | h
    · rw [h] at ho
      cases ho
    · exact absurd ⟨_, hp⟩ h
  · cases s.positionals with
    | nil => simp
    | cons p positionals =>
      simp only [bind_eq_ok_iff]
      constructor
      · rintro ⟨s', hs, ⟨⟩⟩
        exact ⟨p, positionals, s', rfl, hs, rfl⟩
      · rintro ⟨p, positionals, s', ⟨⟩, hs, rfl⟩
        exact ⟨s', hs, rfl⟩

/-! ## The value of a piece -/

variable {options : List (NamedParameter α)} {pieces : List Piece} {c : Gathering α}

theorem Gathers.not_waiting (h : s.Gathers options pieces c) : ¬ s.Waiting := by
  obtain ⟨s', hs, -⟩ := h
  exact (settle_eq_ok hs).1

theorem gathers_of_none (h : s.pending = .none) :
    s.Gathers options pieces c ↔ Stores options s.gathering pieces c := by
  unfold Gathers
  rw [settle_of_none h]
  simp

theorem gathers_nil :
    s.Gathers options [] c ↔ ∃ s', s.settle = .ok s' ∧ s'.gathering = c := by
  simp [Gathers, eq_comm]

theorem gathers_onlyPositionals {only : Bool} :
    { s with onlyPositionals := only }.Gathers options pieces c ↔ s.Gathers options pieces c := by
  have hsettle : { s with onlyPositionals := only }.settle =
      s.settle.map ({ · with onlyPositionals := only }) := by
    obtain ⟨gathered, positionals, given, pending, flag⟩ := s
    cases pending with
    | none => rfl
    | positional p value =>
      simp only [settle]
      cases p.accept gathered value <;> rfl
    | option p value =>
      cases value with
      | none => rfl
      | some value =>
        simp only [settle, acceptOption]
        split
        · rfl
        · cases p.accept gathered value <;> rfl
  unfold Gathers
  rw [hsettle]
  simp only [map_eq_ok_iff]
  constructor
  · rintro ⟨_, ⟨s', hs, rfl⟩, hstores⟩
    exact ⟨s', hs, hstores⟩
  · rintro ⟨s', hs, hstores⟩
    exact ⟨_, ⟨s', hs, rfl⟩, hstores⟩

/-- A positional argument that is taken is one more piece. -/
theorem gathers_takeValue (h : s.onlyPositionals = true ∨ ¬ s.Waiting) :
    (∃ t, s.takeValue value = .ok t ∧ t.Gathers options pieces c) ↔
      s.Gathers options (.positional value :: pieces) c := by
  constructor
  · rintro ⟨t, ht, t', ht', later⟩
    obtain ⟨p, positionals, s', hp, hs, rfl⟩ := (takeValue_eq_ok_iff h).1 ht
    obtain ⟨b, hb, rfl⟩ := (settle_of_positional rfl).1 ht'
    refine ⟨s', hs, stores_positional_iff.2 ⟨p, positionals, b, ?_, hb, later⟩⟩
    exact (settle_eq_ok hs).2.2.1.trans hp
  · rintro ⟨s', hs, hstores⟩
    obtain ⟨p, positionals, b, hp, hb, later⟩ := stores_positional_iff.1 hstores
    refine ⟨_, (takeValue_eq_ok_iff h).2 ⟨p, positionals, s', ?_, hs, rfl⟩, ?_⟩
    · exact (settle_eq_ok hs).2.2.1.symm.trans hp
    · exact ⟨_, (settle_of_positional rfl).2 ⟨b, hb, rfl⟩, later⟩

variable {p : NamedParameter α}

/-- So is an option whose value has been met. -/
theorem gathers_option (hnodup : (options.map fun p => p.name).Nodup) (hp : p ∈ options) :
    (∃ s', s.settle = .ok s' ∧
        { s' with pending := .option p (some value) }.Gathers options pieces c) ↔
      s.Gathers options (.option p.name value :: pieces) c := by
  unfold Gathers
  refine exists_congr fun s' => and_congr_right fun hs => ?_
  rw [stores_option_iff hnodup hp]
  constructor
  · rintro ⟨t, ht, later⟩
    obtain ⟨hn, b, hb, rfl⟩ := (settle_of_option rfl).1 ht
    exact ⟨hn, b, hb, later⟩
  · rintro ⟨hn, b, hb, later⟩
    exact ⟨_, (settle_of_option rfl).2 ⟨hn, b, hb, rfl⟩, later⟩

/-- So is an option that is joined to its value. -/
theorem gathers_acceptOption (hnodup : (options.map fun p => p.name).Nodup) (hp : p ∈ options) :
    (∃ s' t, s.settle = .ok s' ∧ s'.acceptOption p value = .ok t ∧ t.Gathers options pieces c) ↔
      s.Gathers options (.option p.name value :: pieces) c := by
  constructor
  · rintro ⟨s', t, hs, ht, hgathers⟩
    obtain ⟨hn, b, hb, htaken⟩ := acceptOption_eq_ok_iff.1 ht
    have hnone : t.pending = .none := by
      rw [htaken]
      exact (settle_eq_ok hs).2.1
    have later := (gathers_of_none hnone).1 hgathers
    rw [htaken] at later
    exact ⟨s', hs, (stores_option_iff hnodup hp).2 ⟨hn, b, hb, later⟩⟩
  · rintro ⟨s', hs, hstores⟩
    obtain ⟨hn, b, hb, later⟩ := (stores_option_iff hnodup hp).1 hstores
    refine ⟨s', _, hs, acceptOption_eq_ok_iff.2 ⟨hn, b, hb, rfl⟩, (gathers_of_none ?_).2 later⟩
    exact (settle_eq_ok hs).2.1

end CommandState

end AdcFeed

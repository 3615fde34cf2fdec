import AdcFeed.Proofs.CommandLine.Gathering
import Mathlib.Data.List.Forall2

/-!
What storing the values of pieces leaves in one field of what is gathered. Main statements: a field
that one option writes holds the value of that option, wherever it stands (`Stores.option_field`),
and a field that one positional parameter writes the value at its place
(`Stores.positional_field`); values that their parameters take can be stored (`exists_stores`).
-/

namespace AdcFeed

variable {α β : Type}

namespace Parameter

/-- Whatever the parameter stores, the field stays as it is. -/
def Keeps (p : Parameter α) (field : α → Option β) : Prop :=
  ∀ a b value, p.accept a value = .ok b → field b = field a

/-- Whatever the parameter stores, the field then holds what the value spells. -/
def Writes (p : Parameter α) (field : α → Option β) (spells : Bytes → β → Prop) : Prop :=
  ∀ a b value, p.accept a value = .ok b → ∃ x, field b = some x ∧ spells value x

/-- The value can be stored, whatever has been gathered. -/
def Takes (p : Parameter α) (value : Bytes) : Prop := ∀ a, ∃ b, p.accept a value = .ok b

/-- The bytes are a text, and this is what is read from it. -/
def ReadsText {β ε : Type} (read : String → Except ε β) (value : Bytes) (x : β) : Prop :=
  ∃ text, encodeText text = value ∧ read text = .ok x

/-- The parameter reads the text of a value, and puts what it has read into what has been
gathered. -/
def Sets (p : Parameter α) (read : String → Except String β) (put : α → β → α) : Prop :=
  ∀ a text, p.store a text = (read text).map (put a)

section Sets

variable {p : Parameter α} {read : String → Except String β} {put : α → β → α} {a b : α}
  {value : Bytes} {x y : β}

theorem ReadsText.unique (h : ReadsText read value x) (h' : ReadsText read value y) : x = y := by
  obtain ⟨text, rfl, hx⟩ := h
  obtain ⟨other, hother, hy⟩ := h'
  rw [encodeText_injective hother, hx] at hy
  cases hy
  rfl

theorem ReadsText.eq_of_rel {o : Option Bytes} {x y : Option β}
    (hx : Option.Rel (ReadsText read) o x) (hy : Option.Rel (ReadsText read) o y) : x = y := by
  cases hx with
  | none =>
    cases hy
    rfl
  | some hx =>
    cases hy with
    | some hy => rw [hx.unique hy]

theorem ReadsText.eq_of_forall₂ {values : List Bytes} {x y : Option β}
    (hx : List.Forall₂ (ReadsText read) values x.toList)
    (hy : List.Forall₂ (ReadsText read) values y.toList) : x = y := by
  have h := List.right_unique_forall₂' (fun _ _ _ h h' => h.unique h') hx hy
  cases x with
  | none =>
    cases y with
    | none => rfl
    | some y => cases h
  | some x =>
    cases y with
    | none => cases h
    | some y =>
      cases h
      rfl

theorem Sets.accept_eq_ok_iff (hp : p.Sets read put) :
    p.accept a value = .ok b ↔ ∃ x, ReadsText read value x ∧ b = put a x := by
  unfold accept ReadsText
  cases htext : decodeText? value with
  | none =>
    have hvalue : ∀ text, encodeText text ≠ value := fun text h => by
      rw [← h, decodeText?_encodeText] at htext
      cases htext
    simp [hvalue]
  | some text =>
    have hvalue : ∀ other, encodeText other = value ↔ other = text := fun other => by
      rw [← decodeText?_eq_some_iff, htext, Option.some.injEq, eq_comm]
    simp only [hvalue, exists_eq_left, hp a text]
    cases read text with
    | error e => simp [Except.map]
    | ok x => simp [Except.map, eq_comm]

theorem Sets.takes (hp : p.Sets read put) (h : ReadsText read value x) : p.Takes value :=
  fun _ => ⟨_, hp.accept_eq_ok_iff.2 ⟨x, h, rfl⟩⟩

theorem Sets.takes_of_rel (hp : p.Sets read put) {o : Option β}
    (h : Option.Rel (ReadsText read) (some value) o) : p.Takes value := by
  cases h with
  | some h => exact hp.takes h

theorem Sets.takes_of_forall₂ (hp : p.Sets read put) {values : List Bytes} {xs : List β}
    (h : List.Forall₂ (ReadsText read) values xs) : ∀ value ∈ values, p.Takes value := by
  induction h with
  | nil => exact fun _ h => absurd h List.not_mem_nil
  | cons h later ih => exact List.forall_mem_cons.2 ⟨hp.takes h, ih⟩

theorem Sets.keeps (hp : p.Sets read put) {γ : Type} {field : α → Option γ}
    (hput : ∀ a x, field (put a x) = field a) : p.Keeps field := by
  intro a b value h
  obtain ⟨x, -, rfl⟩ := hp.accept_eq_ok_iff.1 h
  exact hput a x

theorem Sets.writes (hp : p.Sets read put) {field : α → Option β}
    (hput : ∀ a x, field (put a x) = some x) : p.Writes field (ReadsText read) := by
  intro a b value h
  obtain ⟨x, hx, rfl⟩ := hp.accept_eq_ok_iff.1 h
  exact ⟨x, hput a x, hx⟩

end Sets

end Parameter

variable {options : List (NamedParameter α)} {a c : Gathering α} {pieces : List Piece}
  {field : α → Option β} {spells : Bytes → β → Prop}

theorem Stores.length_positionalValues_le (h : Stores options a pieces c) :
    (positionalValues pieces).length ≤ a.positionals.length := by
  induction h with
  | nil a => simp
  | cons h later ih =>
    cases h with
    | positional h => simpa using ih
    | option hp hn h => exact ih

/-- A field stays as it is if no parameter that is still to come writes it. -/
theorem Stores.keeps (h : Stores options a pieces c) (hpos : ∀ p ∈ a.positionals, p.Keeps field)
    (hopt : ∀ p ∈ options, p.name ∉ a.given → p.toParameter.Keeps field) :
    field c.values = field a.values := by
  induction h with
  | nil a => rfl
  | cons h later ih =>
    cases h with
    | positional h =>
      rw [ih (fun p hp => hpos p (List.mem_cons_of_mem _ hp)) hopt]
      exact hpos _ List.mem_cons_self _ _ _ h
    | option hp hn h =>
      rw [ih hpos fun q hq hqn => hopt q hq fun hmem => hqn (List.mem_cons_of_mem _ hmem)]
      exact hopt _ hp hn _ _ _ h

theorem Stores.optionValues_eq_nil (h : Stores options a pieces c) {name : String}
    (hn : name ∈ a.given) : optionValues name pieces = [] := by
  induction h with
  | nil a => rfl
  | cons h later ih =>
    cases h with
    | positional h => exact ih hn
    | option hp hn' h =>
      rw [optionValues_option_of_ne (ne_of_mem_of_not_mem hn hn').symm]
      exact ih (List.mem_cons_of_mem _ hn)

/-- A field that the option of this name writes holds its value, or nothing if it is not given. -/
theorem Stores.option_field (h : Stores options a pieces c) {name : String}
    (hwrites : ∀ p ∈ options, p.name = name → p.toParameter.Writes field spells)
    (hkeeps : ∀ p ∈ options, p.name ≠ name → p.toParameter.Keeps field)
    (hpos : ∀ p ∈ a.positionals, p.Keeps field) (hn : name ∉ a.given)
    (hnone : field a.values = none) :
    List.Forall₂ spells (optionValues name pieces) (field c.values).toList := by
  induction h with
  | nil a =>
    rw [hnone]
    exact .nil
  | cons h later ih =>
    cases h with
    | positional h =>
      refine ih (fun p hp => hpos p (List.mem_cons_of_mem _ hp)) hn ?_
      exact (hpos _ List.mem_cons_self _ _ _ h).trans hnone
    | @option _ _ p _ _ value hp hp' h =>
      by_cases hname : p.name = name
      · subst hname
        obtain ⟨x, hx, hspells⟩ := hwrites p hp rfl _ _ _ h
        -- The option cannot come again, and nothing else writes the field.
        have hlater := later.keeps hpos fun q hq hqn =>
          hkeeps q hq fun heq => hqn (heq ▸ List.mem_cons_self)
        rw [optionValues_option_self, later.optionValues_eq_nil List.mem_cons_self, hlater]
        simp only [hx, Option.toList_some]
        exact .cons hspells .nil
      · rw [optionValues_option_of_ne hname]
        refine ih hpos ?_ ((hkeeps p hp hname _ _ _ h).trans hnone)
        simp [hn, Ne.symm hname]

/-- A field that the positional parameter at this place writes holds the value at that place, or
nothing if there are fewer. -/
theorem Stores.positional_field (h : Stores options a pieces c)
    (before after : List (Parameter α)) {p : Parameter α}
    (hp : a.positionals = before ++ p :: after) (hwrites : p.Writes field spells)
    (hkeeps : ∀ q ∈ before ++ after, q.Keeps field)
    (hopt : ∀ q ∈ options, q.toParameter.Keeps field) (hnone : field a.values = none) :
    Option.Rel spells (positionalValues pieces)[before.length]? (field c.values) := by
  induction h generalizing before with
  | nil a =>
    rw [hnone]
    exact .none
  | cons h later ih =>
    cases h with
    | positional h =>
      cases before with
      | nil =>
        cases hp
        obtain ⟨x, hx, hspells⟩ := hwrites _ _ _ h
        have hlater := later.keeps hkeeps fun q hq _ => hopt q hq
        rw [hlater]
        simp only [hx]
        exact .some hspells
      | cons q before =>
        cases hp
        rw [List.cons_append, List.forall_mem_cons] at hkeeps
        exact ih before rfl hkeeps.2 ((hkeeps.1 _ _ _ h).trans hnone)
    | option hq hn h => exact ih before hp hkeeps ((hopt _ hq _ _ _ h).trans hnone)

/-- Values that their parameters take, not too many of them and none given twice, can be stored in
the order they come in. -/
theorem exists_stores (hlen : (positionalValues pieces).length ≤ a.positionals.length)
    (hpos : ∀ (i : Nat) (p : Parameter α) (value : Bytes), a.positionals[i]? = some p →
      (positionalValues pieces)[i]? = some value → p.Takes value)
    (hopt : ∀ name value, .option name value ∈ pieces →
      ∃ p ∈ options, p.name = name ∧ p.toParameter.Takes value)
    (hnodup : (a.given ++ optionNames pieces).Nodup) : ∃ c, Stores options a pieces c := by
  induction pieces generalizing a with
  | nil => exact ⟨a, .nil a⟩
  | cons piece pieces ih =>
    obtain ⟨values, positionals, given⟩ := a
    cases piece with
    | positional value =>
      cases positionals with
      | nil => simp at hlen
      | cons p positionals =>
        obtain ⟨b, hb⟩ := hpos 0 p value rfl rfl values
        obtain ⟨c, hc⟩ := ih (a := ⟨b, positionals, given⟩) (by simpa using hlen)
          (fun i q value hq hv => hpos (i + 1) q value hq hv)
          (fun name value hmem => hopt name value (List.mem_cons_of_mem _ hmem)) hnodup
        exact ⟨c, .cons (.positional hb) hc⟩
    | option name value =>
      obtain ⟨p, hp, rfl, htakes⟩ := hopt name value List.mem_cons_self
      obtain ⟨b, hb⟩ := htakes values
      have hnodup' : (p.name :: (given ++ optionNames pieces)).Nodup :=
        List.perm_middle.nodup_iff.1 hnodup
      obtain ⟨c, hc⟩ := ih (a := ⟨b, positionals, p.name :: given⟩) hlen hpos
        (fun name value hmem => hopt name value (List.mem_cons_of_mem _ hmem)) hnodup'
      have hfresh : p.name ∉ given := fun hmem =>
        (List.nodup_cons.1 hnodup').1 (List.mem_append_left _ hmem)
      exact ⟨c, .cons (.option hp hfresh hb) hc⟩

end AdcFeed

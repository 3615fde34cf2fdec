import AdcFeed.CommandLine.Grammar
import AdcFeed.Proofs.Text.Ascii

/-!
How a command line is laid out, said without how it is read. `Piece` is what one or two arguments
give, and `Laid` says which arguments give which pieces. Main statement: no list of arguments is
laid out in two ways (`Laid.unique`).
-/

namespace AdcFeed

/-- What is on a command line: a value that goes by its place, or one that goes by a name. -/
inductive Piece where
  | positional (value : Bytes)
  | option (name : String) (value : Bytes)
  deriving DecidableEq

namespace Piece

/-- The value of a piece that goes by its place. -/
def positionalValue? : Piece → Option Bytes
  | .positional value => some value
  | .option _ _ => none

/-- The name that a piece goes by. -/
def optionName? : Piece → Option String
  | .positional _ => none
  | .option name _ => some name

/-- The value of a piece that goes by this name. -/
def optionValue? (name : String) : Piece → Option Bytes
  | .positional _ => none
  | .option other value => if other = name then some value else none

end Piece

/-- The values that go by their place. -/
def positionalValues (pieces : List Piece) : List Bytes := pieces.filterMap Piece.positionalValue?

/-- The names that values go by. -/
def optionNames (pieces : List Piece) : List String := pieces.filterMap Piece.optionName?

/-- The values that go by this name. -/
def optionValues (name : String) (pieces : List Piece) : List Bytes :=
  pieces.filterMap (Piece.optionValue? name)

section Pieces

variable {name other : String} {value : Bytes} {pieces more : List Piece}

@[simp] theorem positionalValues_nil : positionalValues [] = [] := rfl

@[simp] theorem positionalValues_positional :
    positionalValues (.positional value :: pieces) = value :: positionalValues pieces := rfl

@[simp] theorem positionalValues_option :
    positionalValues (.option name value :: pieces) = positionalValues pieces := rfl

@[simp] theorem positionalValues_append :
    positionalValues (pieces ++ more) = positionalValues pieces ++ positionalValues more :=
  List.filterMap_append

@[simp] theorem optionNames_nil : optionNames [] = [] := rfl

@[simp] theorem optionNames_positional :
    optionNames (.positional value :: pieces) = optionNames pieces := rfl

@[simp] theorem optionNames_option :
    optionNames (.option name value :: pieces) = name :: optionNames pieces := rfl

@[simp] theorem optionNames_append :
    optionNames (pieces ++ more) = optionNames pieces ++ optionNames more := List.filterMap_append

@[simp] theorem optionValues_nil : optionValues name [] = [] := rfl

@[simp] theorem optionValues_positional :
    optionValues name (.positional value :: pieces) = optionValues name pieces := rfl

@[simp] theorem optionValues_option_self :
    optionValues name (.option name value :: pieces) = value :: optionValues name pieces := by
  simp [optionValues, Piece.optionValue?]

theorem optionValues_option_of_ne (h : other ≠ name) :
    optionValues name (.option other value :: pieces) = optionValues name pieces := by
  simp [optionValues, Piece.optionValue?, h]

@[simp] theorem optionValues_append :
    optionValues name (pieces ++ more) = optionValues name pieces ++ optionValues name more :=
  List.filterMap_append

@[simp] theorem positionalValues_map_option {values : List Bytes} :
    positionalValues (values.map (.option name)) = [] := by
  simp [positionalValues, Piece.positionalValue?]

@[simp] theorem optionValues_map_option_self {values : List Bytes} :
    optionValues name (values.map (.option name)) = values := by
  induction values with
  | nil => rfl
  | cons value values ih => rw [List.map_cons, optionValues_option_self, ih]

theorem optionValues_map_option_of_ne (h : other ≠ name) {values : List Bytes} :
    optionValues name (values.map (.option other)) = [] := by
  simp [optionValues, Piece.optionValue?, h]

/-- A name is there as often as there are values for it. -/
theorem count_optionNames :
    (optionNames pieces).count name = (optionValues name pieces).length := by
  induction pieces with
  | nil => rfl
  | cons piece pieces ih =>
    cases piece with
    | positional value => exact ih
    | option other value =>
      rw [optionNames_option]
      by_cases h : other = name
      · subst h
        rw [List.count_cons_self, optionValues_option_self, List.length_cons, ih]
      · rw [List.count_cons_of_ne h, optionValues_option_of_ne h, ih]

theorem optionValues_eq_nil_iff : optionValues name pieces = [] ↔ name ∉ optionNames pieces := by
  rw [← List.length_eq_zero_iff, ← count_optionNames, List.count_eq_zero]

theorem mem_optionNames_of_mem (h : .option name value ∈ pieces) : name ∈ optionNames pieces :=
  List.mem_filterMap.2 ⟨_, h, rfl⟩

theorem mem_optionValues_of_mem (h : .option name value ∈ pieces) :
    value ∈ optionValues name pieces :=
  List.mem_filterMap.2 ⟨_, h, if_pos rfl⟩

end Pieces

/-- From left to right the arguments are these pieces, where the options have these names. The value
of an option is joined to its name by an equals sign, or it is the next argument; a value that is an
argument of its own does not start with a dash, unless it comes after two dashes alone. -/
inductive Laid (names : List String) : List Bytes → List Piece → Prop
  | nil : Laid names [] []
  | positional {value : Bytes} {args : List Bytes} {pieces : List Piece}
      (hv : value.head? ≠ some dash) (later : Laid names args pieces) :
      Laid names (value :: args) (.positional value :: pieces)
  | joined {name : String} {value : Bytes} {args : List Bytes} {pieces : List Piece}
      (hn : name ∈ names) (later : Laid names args pieces) :
      Laid names ((encodeText ("--" ++ name ++ "=") ++ value) :: args)
        (.option name value :: pieces)
  | separate {name : String} {value : Bytes} {args : List Bytes} {pieces : List Piece}
      (hn : name ∈ names) (hv : value.head? ≠ some dash) (later : Laid names args pieces) :
      Laid names (encodeText ("--" ++ name) :: value :: args) (.option name value :: pieces)
  | separator (values : List Bytes) :
      Laid names (encodeText "--" :: values) (values.map .positional)

/-- Only the options of the command line are among the pieces. -/
theorem Laid.optionNames_subset {names : List String} {args : List Bytes} {pieces : List Piece}
    (h : Laid names args pieces) : optionNames pieces ⊆ names := by
  induction h with
  | nil => exact List.nil_subset _
  | positional hv later ih => exact ih
  | joined hn later ih => exact List.cons_subset.2 ⟨hn, ih⟩
  | separate hn hv later ih => exact List.cons_subset.2 ⟨hn, ih⟩
  | separator values =>
    intro name hname
    simp [optionNames, Piece.optionName?] at hname

/-! ## Forms of arguments -/

namespace ArgumentForm

/-- What an argument of each form looks like. -/
inductive Shape : Bytes → ArgumentForm → Prop
  | word {arg : Bytes} (h : arg.head? ≠ some dash) : Shape arg .plain
  | dashAlone : Shape [dash] .plain
  | separator : Shape [dash, dash] .separator
  | short {letters : Bytes} (hl : letters ≠ []) (h : letters.head? ≠ some dash) :
      Shape (dash :: letters) (.short letters)
  | long {name : Bytes} (hn : name ≠ []) (h : equalsSign ∉ name) :
      Shape (dash :: dash :: name) (.long name none)
  | joined {name value : Bytes} (h : equalsSign ∉ name) :
      Shape (dash :: dash :: (name ++ equalsSign :: value)) (.long name (some value))

theorem of_dash_dash {name : Bytes} (hn : name ≠ []) :
    ArgumentForm.of (dash :: dash :: name) =
      match name.dropWhile (· ≠ equalsSign) with
      | [] => .long name none
      | _ :: value => .long (name.takeWhile (· ≠ equalsSign)) (some value) := by
  dsimp only [ArgumentForm.of]
  exact (if_neg (not_not_intro rfl)).trans
    ((if_neg (not_not_intro rfl)).trans (if_neg (by simpa using hn)))

theorem forall_ne_equalsSign {name : Bytes} (h : equalsSign ∉ name) :
    ∀ b ∈ name, decide (b ≠ equalsSign) = true := by
  intro b hb
  rw [decide_eq_true_eq]
  exact ne_of_mem_of_not_mem hb h

variable {arg : Bytes} {form : ArgumentForm}

theorem Shape.of_eq (h : Shape arg form) : ArgumentForm.of arg = form := by
  cases h with
  | word h =>
    cases arg with
    | nil => rfl
    | cons first rest =>
      have hf : first ≠ dash := by simpa using h
      dsimp only [ArgumentForm.of]
      rw [if_pos hf]
  | dashAlone => rfl
  | separator => rfl
  | @short letters hl h =>
    cases letters with
    | nil => exact absurd rfl hl
    | cons second name =>
      have hs : second ≠ dash := by simpa using h
      dsimp only [ArgumentForm.of]
      rw [if_neg (not_not_intro rfl), if_pos hs]
  | @long name hn h =>
    have hdrop : name.dropWhile (· ≠ equalsSign) = [] := by
      have happend := @List.dropWhile_append_of_pos _ _ name [] (forall_ne_equalsSign h)
      rwa [List.append_nil] at happend
    rw [of_dash_dash hn, hdrop]
  | @joined name value h =>
    rw [of_dash_dash (by simp), List.dropWhile_append_of_pos (forall_ne_equalsSign h),
      List.takeWhile_append_of_pos (forall_ne_equalsSign h)]
    simp

/-- Every argument looks like one of the forms, and that is the one that is read from it. -/
theorem shape_of (arg : Bytes) : Shape arg (ArgumentForm.of arg) := by
  have hform : ∃ form, Shape arg form := by
    by_cases hfirst : arg.head? = some dash
    · obtain ⟨rest, rfl⟩ := List.head?_eq_some_iff.1 hfirst
      by_cases hl : rest = []
      · subst hl
        exact ⟨_, .dashAlone⟩
      · by_cases hsecond : rest.head? = some dash
        · obtain ⟨name, rfl⟩ := List.head?_eq_some_iff.1 hsecond
          by_cases heq : equalsSign ∈ name
          · obtain ⟨before, value, rfl, hbefore⟩ := List.eq_append_cons_of_mem heq
            exact ⟨_, .joined hbefore⟩
          · by_cases hn : name = []
            · subst hn
              exact ⟨_, .separator⟩
            · exact ⟨_, .long hn heq⟩
        · exact ⟨_, .short hl hsecond⟩
    · exact ⟨_, .word hfirst⟩
  obtain ⟨form, h⟩ := hform
  exact h.of_eq ▸ h

end ArgumentForm

/-! ## Arguments of options -/

/-- The name of an option that can be told from its value, and from two dashes alone. -/
structure IsOptionName (name : String) : Prop where
  ne_empty : name ≠ ""
  equalsSign_not_mem : equalsSign ∉ encodeText name

section Arguments

variable {name : String} {value : Bytes}

theorem encodeText_dashes (name : String) :
    encodeText ("--" ++ name) = dash :: dash :: encodeText name := by
  rw [encodeText_append]
  rfl

theorem encodeText_dashes_equals (name : String) (value : Bytes) :
    encodeText ("--" ++ name ++ "=") ++ value =
      dash :: dash :: (encodeText name ++ equalsSign :: value) := by
  have hequals : encodeText "=" = [equalsSign] := rfl
  rw [encodeText_append, encodeText_dashes, hequals]
  simp

theorem of_dashes (hn : IsOptionName name) :
    ArgumentForm.of (encodeText ("--" ++ name)) = .long (encodeText name) none := by
  rw [encodeText_dashes]
  refine (ArgumentForm.Shape.long ?_ hn.equalsSign_not_mem).of_eq
  intro hnil
  have hempty : encodeText name = encodeText "" := hnil
  exact hn.ne_empty (encodeText_injective hempty)

theorem of_dashes_equals (hn : IsOptionName name) (value : Bytes) :
    ArgumentForm.of (encodeText ("--" ++ name ++ "=") ++ value) =
      .long (encodeText name) (some value) := by
  rw [encodeText_dashes_equals]
  exact (ArgumentForm.Shape.joined hn.equalsSign_not_mem).of_eq

theorem of_separator : ArgumentForm.of (encodeText "--") = .separator := rfl

end Arguments

/-! ## One layout only -/

variable {names : List String} {args : List Bytes} {pieces others : List Piece}

/-- The form of the first argument tells what it gives, and where the layout goes on. -/
theorem Laid.of_form (hnames : ∀ name ∈ names, IsOptionName name) {arg : Bytes}
    (h : Laid names (arg :: args) pieces) :
    match ArgumentForm.of arg with
    | .plain => ∃ later, pieces = .positional arg :: later ∧ Laid names args later
    | .long letters (some value) =>
      ∃ name later, encodeText name = letters ∧ pieces = .option name value :: later ∧
        Laid names args later
    | .long letters none =>
      ∃ name value rest later, encodeText name = letters ∧ args = value :: rest ∧
        pieces = .option name value :: later ∧ Laid names rest later
    | .separator => pieces = args.map .positional
    | .short _ => False := by
  generalize hline : arg :: args = line at h
  cases h with
  | nil => cases hline
  | positional hv later =>
    cases hline
    rw [(ArgumentForm.Shape.word hv).of_eq]
    exact ⟨_, rfl, later⟩
  | joined hn later =>
    cases hline
    rw [of_dashes_equals (hnames _ hn)]
    exact ⟨_, _, rfl, rfl, later⟩
  | separate hn hv later =>
    cases hline
    rw [of_dashes (hnames _ hn)]
    exact ⟨_, _, _, _, rfl, rfl, rfl, later⟩
  | separator values =>
    cases hline
    rw [of_separator]

/-- **No list of arguments is laid out in two ways**, where no name of an option is empty or holds
an equals sign. -/
theorem Laid.unique (hnames : ∀ name ∈ names, IsOptionName name) (h : Laid names args pieces)
    (h' : Laid names args others) : pieces = others := by
  induction h generalizing others with
  | nil =>
    cases h'
    rfl
  | positional hv later ih =>
    have hother := h'.of_form hnames
    rw [(ArgumentForm.Shape.word hv).of_eq] at hother
    obtain ⟨later', rfl, hlater'⟩ := hother
    rw [ih hlater']
  | joined hn later ih =>
    have hother := h'.of_form hnames
    rw [of_dashes_equals (hnames _ hn)] at hother
    obtain ⟨name, later', hname, rfl, hlater'⟩ := hother
    rw [ih hlater', encodeText_injective hname]
  | separate hn hv later ih =>
    have hother := h'.of_form hnames
    rw [of_dashes (hnames _ hn)] at hother
    obtain ⟨name, value, rest, later', hname, hargs, rfl, hlater'⟩ := hother
    cases hargs
    rw [ih hlater', encodeText_injective hname]
  | separator values =>
    have hother := h'.of_form hnames
    rw [of_separator] at hother
    exact hother.symm

end AdcFeed

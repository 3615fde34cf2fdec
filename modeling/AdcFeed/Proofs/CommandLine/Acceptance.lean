import AdcFeed.Proofs.CommandLine.Gathering

/-!
Which command lines are read without a fault. Main statement: those that are laid out as some
pieces, where these and the variables of the options that are not among them can be stored one after
the other (`CommandGrammar.read_eq_ok_iff`).
-/

namespace AdcFeed

variable {α : Type}

/-- A dash alone is no value of the parameter. -/
def Parameter.RefusesDash (p : Parameter α) : Prop := ∀ a b, p.accept a [dash] ≠ .ok b

namespace CommandState

variable {s t : CommandState α} {p : NamedParameter α} {value : Bytes} {pieces : List Piece}
  {options : List (NamedParameter α)} {c : Gathering α}

/-- A state between two pieces, before two dashes alone. -/
structure Ready (s : CommandState α) : Prop where
  free : s.onlyPositionals = false
  not_waiting : ¬ s.Waiting
  refuse : ∀ p ∈ s.positionals, p.RefusesDash

theorem Ready.settled (hs : s.Ready) (ht : s.settle = .ok t) : t.Ready := by
  obtain ⟨-, hnone, hpositionals, hflag⟩ := settle_eq_ok ht
  refine ⟨hflag.trans hs.free, ?_, hpositionals ▸ hs.refuse⟩
  rintro ⟨p, hp⟩
  rw [hnone] at hp
  cases hp

theorem Ready.takeValue (hs : s.Ready) (ht : s.takeValue value = .ok t) : t.Ready := by
  obtain ⟨p, positionals, s', hp, hs', rfl⟩ := (takeValue_eq_ok_iff (.inr hs.not_waiting)).1 ht
  refine ⟨(hs.settled hs').free, ?_, ?_⟩
  · rintro ⟨q, ⟨⟩⟩
  · intro q hq
    exact hs.refuse q (hp ▸ List.mem_cons_of_mem p hq)

theorem Ready.acceptOption (hs : s.Ready) (ht : s.acceptOption p value = .ok t) : t.Ready := by
  obtain ⟨-, b, -, rfl⟩ := acceptOption_eq_ok_iff.1 ht
  exact ⟨hs.free, hs.not_waiting, hs.refuse⟩

theorem Ready.option (hs : s.Ready) : { s with pending := .option p (some value) }.Ready := by
  refine ⟨hs.free, ?_, hs.refuse⟩
  rintro ⟨q, ⟨⟩⟩

theorem Ready.not_gathers_dash (hs : s.Ready) :
    ¬ s.Gathers options (.positional [dash] :: pieces) c := by
  rintro ⟨s', hs', hstores⟩
  obtain ⟨p, positionals, b, hp, hb, -⟩ := stores_positional_iff.1 hstores
  refine (hs.settled hs').refuse p ?_ _ b hb
  have hmem : s'.positionals = p :: positionals := hp
  simp [hmem]

end CommandState

namespace CommandGrammar

/-- The names of the options. -/
def names (g : CommandGrammar α) : List String := g.options.map fun p => p.name

/-- The options can be told apart, from one another and from what every command line may hold, and a
dash alone is no value. -/
structure Lawful (g : CommandGrammar α) : Prop where
  isOptionName : ∀ p ∈ g.options, IsOptionName p.name
  ne_answer : ∀ p ∈ g.options, p.name ≠ "help" ∧ p.name ≠ "version"
  nodup : g.names.Nodup
  positionals_refuse : ∀ p ∈ g.positionals, p.RefusesDash
  options_refuse : ∀ p ∈ g.options, p.toParameter.RefusesDash

variable {g : CommandGrammar α} {env : Environment} {s t : CommandState α} {arg : Bytes}
  {args : List Bytes} {c : Gathering α}

theorem Lawful.names_isOptionName (hg : g.Lawful) : ∀ name ∈ g.names, IsOptionName name := by
  intro name hname
  obtain ⟨p, hp, rfl⟩ := List.mem_map.1 hname
  exact hg.isOptionName p hp

/-! ## From a state on -/

/-- Read from a state on, the arguments give this in the end. -/
def Leads (g : CommandGrammar α) (env : Environment) (s : CommandState α) (args : List Bytes)
    (c : Gathering α) : Prop :=
  ∃ t, args.foldlM (g.takeArgument env) s = .ok t ∧ t.Gathers g.options [] c

theorem leads_nil : g.Leads env s [] c ↔ s.Gathers g.options [] c := by
  simp [Leads, pure, Except.pure]

theorem leads_cons :
    g.Leads env s (arg :: args) c ↔
      ∃ t, g.takeArgument env s arg = .ok t ∧ g.Leads env t args c :=
  exists_foldlM_cons_iff

/-- After two dashes alone every argument is positional. -/
theorem leads_of_onlyPositionals (ho : s.onlyPositionals = true) :
    g.Leads env s args c ↔ s.Gathers g.options (args.map .positional) c := by
  induction args generalizing s with
  | nil => exact leads_nil
  | cons arg args ih =>
    have htake : g.takeArgument env s arg = s.takeValue arg := by rw [takeArgument, if_pos ho]
    rw [leads_cons, htake, List.map_cons, ← CommandState.gathers_takeValue (.inl ho)]
    refine exists_congr fun t => and_congr_right fun ht => ih ?_
    obtain ⟨p, positionals, s', -, hs, rfl⟩ := (CommandState.takeValue_eq_ok_iff (.inl ho)).1 ht
    exact (CommandState.settle_eq_ok hs).2.2.2.trans ho

/-! ## Arguments with dashes -/

/-- A question is not answered by a state. -/
theorem settle_bind_error_ne_ok {answer : UsageError} :
    (s.settle.bind fun _ => .error answer) ≠ .ok t := by
  cases s.settle <;> simp [Except.bind]

theorem takeShort_ne_ok {letters : Bytes} : g.takeShort env s letters ≠ .ok t := by
  unfold takeShort
  dsimp only
  split
  · exact settle_bind_error_ne_ok
  · split
    · exact settle_bind_error_ne_ok
    · simp

theorem Lawful.find?_eq_some_iff (hg : g.Lawful) {p : NamedParameter α} {name : Bytes} :
    g.options.find? (fun q => encodeText q.name = name) = some p ↔
      p ∈ g.options ∧ encodeText p.name = name := by
  constructor
  · intro h
    exact ⟨List.mem_of_find?_eq_some h, by simpa using List.find?_some h⟩
  · rintro ⟨hp, rfl⟩
    cases hfind : g.options.find? fun q => encodeText q.name = encodeText p.name with
    | none => simpa using List.find?_eq_none.1 hfind p hp
    | some q =>
      have hq : encodeText q.name = encodeText p.name := by simpa using List.find?_some hfind
      rw [List.inj_on_of_nodup_map hg.nodup (List.mem_of_find?_eq_some hfind) hp
        (encodeText_injective hq)]

/-- What an argument with two dashes does to a state, where it is one of an option. -/
theorem takeLong_eq_ok_iff (hg : g.Lawful) {name : Bytes} {value : Option Bytes} :
    g.takeLong env s name value = .ok t ↔
      ∃ p ∈ g.options, encodeText p.name = name ∧ ∃ s', s.settle = .ok s' ∧
        match value with
        | none => t = { s' with pending := .option p none }
        | some value => s'.acceptOption p value = .ok t := by
  have hanswer : ∀ p ∈ g.options, encodeText p.name ≠ encodeText "help" ∧
      encodeText p.name ≠ encodeText "version" := fun p hp =>
    ⟨fun h => (hg.ne_answer p hp).1 (encodeText_injective h),
      fun h => (hg.ne_answer p hp).2 (encodeText_injective h)⟩
  constructor
  · intro h
    unfold takeLong at h
    dsimp only at h
    split at h
    · cases value with
      | none => exact absurd h settle_bind_error_ne_ok
      | some value => cases h
    · split at h
      · cases value with
        | none => exact absurd h settle_bind_error_ne_ok
        | some value => cases h
      · split at h
        · cases h
        · rename_i p hfind
          obtain ⟨hp, hname⟩ := hg.find?_eq_some_iff.1 hfind
          obtain ⟨s', hs, h⟩ := bind_eq_ok_iff.1 h
          refine ⟨p, hp, hname, s', hs, ?_⟩
          cases value with
          | none =>
            cases h
            rfl
          | some value => exact h
  · rintro ⟨p, hp, rfl, s', hs, h⟩
    unfold takeLong
    dsimp only
    rw [if_neg (hanswer p hp).1, if_neg (hanswer p hp).2,
      hg.find?_eq_some_iff.2 ⟨hp, rfl⟩]
    refine bind_eq_ok_iff.2 ⟨s', hs, ?_⟩
    cases value with
    | none => rw [h]; rfl
    | some value => exact h

/-! ## Arguments laid out as pieces -/

theorem takeArgument_of_free (hf : s.onlyPositionals = false) :
    g.takeArgument env s arg =
      match ArgumentForm.of arg with
      | .separator => .ok { s with onlyPositionals := true }
      | .long name value => g.takeLong env s name value
      | .short letters => g.takeShort env s letters
      | .plain => s.takeValue arg := by
  unfold takeArgument
  exact if_neg (by simp [hf])

/-- The value of an option that waits for it is the next argument, whatever comes later. -/
theorem leads_of_waiting (hg : g.Lawful) (hf : s.onlyPositionals = false) {p : NamedParameter α} :
    g.Leads env { s with pending := .option p none } args c ↔
      ∃ value rest, args = value :: rest ∧ ArgumentForm.of value = .plain ∧
        g.Leads env { s with pending := .option p (some value) } rest c := by
  have hwaiting : { s with pending := .option p none }.Waiting := ⟨p, rfl⟩
  have hfree : { s with pending := .option p none }.onlyPositionals = false := hf
  constructor
  · intro h
    cases args with
    | nil => exact absurd hwaiting (leads_nil.1 h).not_waiting
    | cons value rest =>
      obtain ⟨t, ht, later⟩ := leads_cons.1 h
      rw [takeArgument_of_free hfree] at ht
      -- All but a plain argument need the option settled first, and its value is missing.
      cases hform : ArgumentForm.of value with
      | separator =>
        rw [hform] at ht
        cases ht
        have hgathers := (leads_of_onlyPositionals rfl).1 later
        exact absurd ⟨p, rfl⟩ hgathers.not_waiting
      | long name joined =>
        rw [hform] at ht
        obtain ⟨q, -, -, s', hs, -⟩ := (takeLong_eq_ok_iff hg).1 ht
        exact absurd hwaiting (CommandState.settle_eq_ok hs).1
      | short letters =>
        rw [hform] at ht
        exact absurd ht takeShort_ne_ok
      | plain =>
        rw [hform] at ht
        dsimp only at ht
        rw [CommandState.takeValue_of_waiting hfree rfl] at ht
        cases ht
        exact ⟨value, rest, rfl, hform, later⟩
  · rintro ⟨value, rest, rfl, hform, later⟩
    refine leads_cons.2 ⟨_, ?_, later⟩
    rw [takeArgument_of_free hfree, hform]
    exact CommandState.takeValue_of_waiting hfree rfl

theorem not_gathers_option_dash (hg : g.Lawful) {p : NamedParameter α} (hp : p ∈ g.options)
    {pieces : List Piece} : ¬ s.Gathers g.options (.option p.name [dash] :: pieces) c := by
  rintro ⟨s', -, hstores⟩
  obtain ⟨-, b, hb, -⟩ := (stores_option_iff hg.nodup hp).1 hstores
  exact hg.options_refuse p hp _ b hb

/-- What is read without a fault is laid out as pieces, and their values can be stored. The
induction is on how many arguments are left, for an option may take two of them. -/
theorem Leads.laid (hg : g.Lawful) (hs : s.Ready) (h : g.Leads env s args c) :
    ∃ pieces, Laid g.names args pieces ∧ s.Gathers g.options pieces c := by
  induction hn : args.length using Nat.strong_induction_on generalizing s args with
  | _ n ih =>
    subst hn
    cases args with
    | nil => exact ⟨[], .nil, leads_nil.1 h⟩
    | cons arg args =>
      obtain ⟨t, ht, later⟩ := leads_cons.1 h
      rw [takeArgument_of_free hs.free] at ht
      have hshape := ArgumentForm.shape_of arg
      generalize ArgumentForm.of arg = form at hshape ht
      cases hshape with
      | word hv =>
        obtain ⟨pieces, hlaid, hgathers⟩ := ih args.length (by simp) (hs.takeValue ht) later rfl
        exact ⟨_, .positional hv hlaid,
          (CommandState.gathers_takeValue (.inr hs.not_waiting)).1 ⟨t, ht, hgathers⟩⟩
      | dashAlone =>
        -- It is taken as a value here, and refused when the value is checked.
        obtain ⟨pieces, -, hgathers⟩ := ih args.length (by simp) (hs.takeValue ht) later rfl
        have hdash := (CommandState.gathers_takeValue (.inr hs.not_waiting)).1 ⟨t, ht, hgathers⟩
        exact absurd hdash hs.not_gathers_dash
      | separator =>
        cases ht
        exact ⟨_, .separator args,
          CommandState.gathers_onlyPositionals.1 ((leads_of_onlyPositionals rfl).1 later)⟩
      | short hl hfirst => exact absurd ht takeShort_ne_ok
      | long hname hequals =>
        obtain ⟨p, hp, rfl, s', hs', rfl⟩ := (takeLong_eq_ok_iff hg).1 ht
        have hready := hs.settled hs'
        obtain ⟨value, rest, rfl, hplain, hrest⟩ := (leads_of_waiting hg hready.free).1 later
        have hlen : rest.length < (value :: rest).length + 1 := by
          rw [List.length_cons]
          omega
        obtain ⟨pieces, hlaid, hgathers⟩ := ih rest.length hlen hready.option hrest rfl
        have hstored := (CommandState.gathers_option hg.nodup hp).1 ⟨s', hs', hgathers⟩
        have hvalue := ArgumentForm.shape_of value
        rw [hplain] at hvalue
        cases hvalue with
        | word hv =>
          rw [← encodeText_dashes]
          exact ⟨_, .separate (List.mem_map_of_mem hp) hv hlaid, hstored⟩
        | dashAlone => exact absurd hstored (not_gathers_option_dash hg hp)
      | joined hequals =>
        obtain ⟨p, hp, rfl, s', hs', ht⟩ := (takeLong_eq_ok_iff hg).1 ht
        have hready := (hs.settled hs').acceptOption ht
        obtain ⟨pieces, hlaid, hgathers⟩ := ih args.length (by simp) hready later rfl
        rw [← encodeText_dashes_equals]
        exact ⟨_, .joined (List.mem_map_of_mem hp) hlaid,
          (CommandState.gathers_acceptOption hg.nodup hp).1 ⟨s', t, hs', ht, hgathers⟩⟩

/-- What is laid out as pieces whose values can be stored is read without a fault. -/
theorem leads_of_laid (hg : g.Lawful) {pieces : List Piece} (hlaid : Laid g.names args pieces)
    (hs : s.Ready) (h : s.Gathers g.options pieces c) : g.Leads env s args c := by
  induction hlaid generalizing s with
  | nil => exact leads_nil.2 h
  | positional hv later ih =>
    obtain ⟨t, ht, hgathers⟩ := (CommandState.gathers_takeValue (.inr hs.not_waiting)).2 h
    refine leads_cons.2 ⟨t, ?_, ih (hs.takeValue ht) hgathers⟩
    rw [takeArgument_of_free hs.free, (ArgumentForm.Shape.word hv).of_eq]
    exact ht
  | joined hn later ih =>
    obtain ⟨p, hp, rfl⟩ := List.mem_map.1 hn
    obtain ⟨s', t, hs', ht, hgathers⟩ := (CommandState.gathers_acceptOption hg.nodup hp).2 h
    refine leads_cons.2 ⟨t, ?_, ih ((hs.settled hs').acceptOption ht) hgathers⟩
    rw [takeArgument_of_free hs.free, of_dashes_equals (hg.isOptionName p hp)]
    exact (takeLong_eq_ok_iff hg).2 ⟨p, hp, rfl, s', hs', ht⟩
  | separate hn hv later ih =>
    obtain ⟨p, hp, rfl⟩ := List.mem_map.1 hn
    obtain ⟨s', hs', hgathers⟩ := (CommandState.gathers_option hg.nodup hp).2 h
    have hready := hs.settled hs'
    refine leads_cons.2 ⟨{ s' with pending := .option p none }, ?_, ?_⟩
    · rw [takeArgument_of_free hs.free, of_dashes (hg.isOptionName p hp)]
      exact (takeLong_eq_ok_iff hg).2 ⟨p, hp, rfl, s', hs', rfl⟩
    · refine (leads_of_waiting hg hready.free).2 ⟨_, _, rfl, ?_, ih hready.option hgathers⟩
      exact (ArgumentForm.Shape.word hv).of_eq
  | separator values =>
    refine leads_cons.2 ⟨{ s with onlyPositionals := true }, ?_, ?_⟩
    · rw [takeArgument_of_free hs.free, of_separator]
    · exact (leads_of_onlyPositionals rfl).2 (CommandState.gathers_onlyPositionals.2 h)

theorem leads_iff (hg : g.Lawful) (hs : s.Ready) :
    g.Leads env s args c ↔ ∃ pieces, Laid g.names args pieces ∧ s.Gathers g.options pieces c :=
  ⟨Leads.laid hg hs, fun ⟨_, hlaid, h⟩ => leads_of_laid hg hlaid hs h⟩

/-! ## Variables -/

/-- What the variable of an option holds, unless the option is given. -/
def variableValues (env : Environment) (given : List String) (p : NamedParameter α) : List Bytes :=
  if p.name ∈ given then [] else (env.lookup p.envName).toList

/-- The variables of the options that are not given, as far as they are set: as pieces. -/
def variablePieces (env : Environment) (given : List String) (options : List (NamedParameter α)) :
    List Piece :=
  options.flatMap fun p => (variableValues env given p).map (.option p.name)

section Variables

variable {given : List String} {p : NamedParameter α} {options : List (NamedParameter α)}

theorem variablePieces_cons :
    variablePieces env given (p :: options) =
      (variableValues env given p).map (.option p.name) ++ variablePieces env given options :=
  List.flatMap_cons

theorem variablePieces_congr {given' : List String} (h : ∀ name, name ∈ given ↔ name ∈ given') :
    variablePieces env given options = variablePieces env given' options := by
  simp only [variablePieces, variableValues, h]

theorem positionalValues_variablePieces :
    positionalValues (variablePieces env given options) = [] := by
  induction options with
  | nil => rfl
  | cons p options ih => rw [variablePieces_cons, positionalValues_append, ih,
      positionalValues_map_option, List.append_nil]

theorem optionValues_variablePieces_eq_nil {name : String} (h : ∀ p ∈ options, p.name ≠ name) :
    optionValues name (variablePieces env given options) = [] := by
  induction options with
  | nil => rfl
  | cons p options ih =>
    obtain ⟨hp, hrest⟩ := List.forall_mem_cons.1 h
    rw [variablePieces_cons, optionValues_append, ih hrest, optionValues_map_option_of_ne hp,
      List.append_nil]

/-- Options of different names do not get in each other's way: each has the value of its own
variable. -/
theorem optionValues_variablePieces (hnodup : (options.map fun p => p.name).Nodup)
    (hp : p ∈ options) :
    optionValues p.name (variablePieces env given options) = variableValues env given p := by
  induction options with
  | nil => cases hp
  | cons q options ih =>
    rw [List.map_cons, List.nodup_cons] at hnodup
    obtain ⟨hfresh, hnodup⟩ := hnodup
    rw [variablePieces_cons, optionValues_append]
    rcases List.mem_cons.1 hp with rfl | hp
    · rw [optionValues_map_option_self, optionValues_variablePieces_eq_nil, List.append_nil]
      exact fun q hq hname => hfresh (hname ▸ List.mem_map_of_mem hq)
    · have hname : q.name ≠ p.name := fun h => hfresh (h ▸ List.mem_map_of_mem hp)
      rw [optionValues_map_option_of_ne hname, ih hnodup hp, List.nil_append]

/-- Where an option has its values from: the command line, or its variable if it is not given. -/
def optionSources (env : Environment) (pieces : List Piece) (name envName : String) : List Bytes :=
  if name ∈ optionNames pieces then optionValues name pieces else (env.lookup envName).toList

theorem optionValues_append_variablePieces (hg : g.Lawful) (hp : p ∈ g.options)
    {pieces : List Piece} :
    optionValues p.name (pieces ++ variablePieces env (optionNames pieces) g.options) =
      optionSources env pieces p.name p.envName := by
  rw [optionValues_append, optionValues_variablePieces hg.nodup hp, variableValues, optionSources]
  split
  · rw [List.append_nil]
  · rename_i hn
    rw [optionValues_eq_nil_iff.2 hn, List.nil_append]

theorem optionNames_append_variablePieces_subset {pieces : List Piece}
    (hpieces : optionNames pieces ⊆ g.names) :
    optionNames (pieces ++ variablePieces env (optionNames pieces) g.options) ⊆ g.names := by
  rw [optionNames_append]
  refine List.append_subset.2 ⟨hpieces, fun name hname => ?_⟩
  by_contra hnot
  refine optionValues_eq_nil_iff.1 (optionValues_variablePieces_eq_nil ?_) hname
  rintro p hp rfl
  exact hnot (List.mem_map_of_mem hp)

theorem takeVariable_cases (env : Environment) (s : CommandState α) (p : NamedParameter α) :
    (variableValues env s.given p = [] ∧ takeVariable env s p = .ok s) ∨
      ∃ value, variableValues env s.given p = [value] ∧ p.name ∉ s.given ∧
        takeVariable env s p =
          (p.accept s.gathered value).map fun b => { s with gathered := b } := by
  unfold variableValues takeVariable
  by_cases hn : p.name ∈ s.given
  · exact .inl ⟨if_pos hn, if_pos hn⟩
  · rw [if_neg hn, if_neg hn]
    cases env.lookup p.envName with
    | none => exact .inl ⟨rfl, rfl⟩
    | some value => exact .inr ⟨value, rfl, hn, rfl⟩

/-- Taking the variables of options, which does not count them as given, is storing them as pieces
of a command line. -/
theorem foldlM_takeVariable (hg : g.Lawful) (hoptions : options ⊆ g.options)
    (hnodup : (options.map fun p => p.name).Nodup) {a : Gathering α} (ha : a.values = s.gathered)
    (hgiven : ∀ p ∈ options, p.name ∈ a.given ↔ p.name ∈ s.given) {values : α} :
    (∃ t, options.foldlM (takeVariable env) s = .ok t ∧ t.gathered = values) ↔
      ∃ c, Stores g.options a (variablePieces env s.given options) c ∧ c.values = values := by
  induction options generalizing s a with
  | nil => simp [variablePieces, pure, Except.pure, ha]
  | cons p options ih =>
    obtain ⟨hp, hoptions⟩ := List.cons_subset.1 hoptions
    rw [List.map_cons, List.nodup_cons] at hnodup
    obtain ⟨hfresh, hnodup⟩ := hnodup
    obtain ⟨hpgiven, hgiven⟩ := List.forall_mem_cons.1 hgiven
    rw [exists_foldlM_cons_iff]
    rw [variablePieces_cons]
    rcases takeVariable_cases env s p with ⟨hvalues, htake⟩ | ⟨value, hvalues, hn, htake⟩
    · rw [htake, hvalues, List.map_nil, List.nil_append, ← ih hoptions hnodup ha hgiven]
      simp
    · simp only [htake, map_eq_ok_iff, hvalues, List.map_cons, List.map_nil, List.singleton_append,
        stores_option_iff hg.nodup hp, ha]
      -- The name now counts as given on one side only, but no later option has it.
      have hlater : ∀ q ∈ options, q.name ∈ p.name :: a.given ↔ q.name ∈ s.given := by
        intro q hq
        have hne : q.name ≠ p.name := fun h => hfresh (h ▸ List.mem_map_of_mem hq)
        simp [hne, hgiven q hq]
      have hrest := fun b => ih (s := { s with gathered := b })
        (a := ⟨b, a.positionals, p.name :: a.given⟩) hoptions hnodup rfl hlater
      constructor
      · rintro ⟨_, ⟨b, hb, rfl⟩, h⟩
        obtain ⟨c, hc, hvalues⟩ := (hrest b).1 h
        exact ⟨c, ⟨mt hpgiven.1 hn, b, hb, hc⟩, hvalues⟩
      · rintro ⟨c, ⟨-, b, hb, hc⟩, hvalues⟩
        exact ⟨_, ⟨b, hb, rfl⟩, (hrest b).2 ⟨c, hc, hvalues⟩⟩

end Variables

theorem read_eq_ok_iff_leads (hg : g.Lawful) {start values : α} :
    g.read env start args = .ok values ↔
      ∃ c, g.Leads env { gathered := start, positionals := g.positionals } args c ∧
        ∃ d, Stores g.options c (variablePieces env c.given g.options) d ∧ d.values = values := by
  have hread : g.read env start args = .ok values ↔
      ∃ s, args.foldlM (g.takeArgument env) { gathered := start, positionals := g.positionals } =
          .ok s ∧ ∃ s', s.settle = .ok s' ∧
        ∃ t, g.options.foldlM (takeVariable env) s' = .ok t ∧ t.gathered = values := by
    unfold read
    simp only [bind_eq_ok_iff, pure, Except.pure, Except.ok.injEq]
  have hvariables : ∀ s' : CommandState α,
      (∃ t, g.options.foldlM (takeVariable env) s' = .ok t ∧ t.gathered = values) ↔
        ∃ d, Stores g.options s'.gathering (variablePieces env s'.gathering.given g.options) d ∧
          d.values = values :=
    fun s' => foldlM_takeVariable hg (List.Subset.refl g.options) hg.nodup rfl fun _ _ => Iff.rfl
  simp only [hread, hvariables, Leads, CommandState.gathers_nil]
  constructor
  · rintro ⟨s, hs, s', hs', hd⟩
    exact ⟨_, ⟨s, hs, s', hs', rfl⟩, hd⟩
  · rintro ⟨_, ⟨s, hs, s', hs', rfl⟩, hd⟩
    exact ⟨s, hs, s', hs', hd⟩

/-- **What is read without a fault**: arguments laid out as pieces that can be stored, and after
them the variables of the options that are not among them. -/
theorem read_eq_ok_iff (hg : g.Lawful) {start values : α} :
    g.read env start args = .ok values ↔
      ∃ pieces c, Laid g.names args pieces ∧
        Stores g.options ⟨start, g.positionals, []⟩
          (pieces ++ variablePieces env (optionNames pieces) g.options) c ∧
        c.values = values := by
  let s : CommandState α := { gathered := start, positionals := g.positionals }
  have hs : s.Ready := by
    refine ⟨rfl, ?_, hg.positionals_refuse⟩
    rintro ⟨p, ⟨⟩⟩
  have hvariables : ∀ {pieces c}, Stores g.options s.gathering pieces c →
      variablePieces env c.given g.options =
        variablePieces env (optionNames pieces) g.options := by
    intro pieces c hstores
    refine variablePieces_congr fun name => ?_
    rw [hstores.mem_given]
    exact or_iff_right List.not_mem_nil
  rw [read_eq_ok_iff_leads hg]
  constructor
  · rintro ⟨c, hleads, d, hd, hvalues⟩
    obtain ⟨pieces, hlaid, hgathers⟩ := (leads_iff hg hs).1 hleads
    have hstores := (CommandState.gathers_of_none rfl).1 hgathers
    rw [hvariables hstores] at hd
    exact ⟨pieces, d, hlaid, hstores.append hd, hvalues⟩
  · rintro ⟨pieces, d, hlaid, hd, hvalues⟩
    obtain ⟨c, hstores, hd⟩ := hd.exists_of_append
    rw [← hvariables hstores] at hd
    have hgathers : s.Gathers g.options pieces c := (CommandState.gathers_of_none rfl).2 hstores
    exact ⟨c, (leads_iff hg hs).2 ⟨pieces, hlaid, hgathers⟩, d, hd, hvalues⟩

end CommandGrammar

end AdcFeed

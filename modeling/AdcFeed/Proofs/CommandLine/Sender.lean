import AdcFeed.CommandLine.Parameters
import AdcFeed.Proofs.CommandLine.Acceptance
import AdcFeed.Proofs.CommandLine.Fields
import AdcFeed.Proofs.Text.Integer

/-!
Which command lines the sending side runs with, and what it is then told. `Configures` says what
the values on a command line and in the environment tell it. Main statement: a command line is
accepted exactly if it is laid out as pieces that configure the sending side; how they are laid
out, and whether an option is given or its variable set, makes no difference
(`SenderConfig.ofArguments_accepts`).
-/

namespace AdcFeed

/-! ## Values -/

section Values

variable {value : Bytes} {port : UInt16} {ip : IpAddress} {delay : Duration} {n : Nat}

/-- The bytes spell a port. -/
def SpellsPort (value : Bytes) (port : UInt16) : Prop :=
  ∃ text, encodeText text = value ∧ SpellsInteger text.toList port.toNat

/-- The bytes are the text of an address. -/
def SpellsIp (value : Bytes) (ip : IpAddress) : Prop :=
  ∃ text, encodeText text = value ∧ IpAddress.read? text = some ip

/-- The bytes are the text of a delay in milliseconds. -/
def SpellsDelay (value : Bytes) (delay : Duration) : Prop :=
  ∃ text, encodeText text = value ∧ Duration.readMillis text = .ok delay

/-- The bytes spell a number of 64 bits, without a minus sign. -/
def SpellsWord64 (value : Bytes) (n : Nat) : Prop :=
  ∃ text, encodeText text = value ∧ SpellsInteger text.toList n ∧
    text.toList.head? ≠ some '-' ∧ n ≤ 0xFFFFFFFFFFFFFFFF

theorem readPort_eq_ok_iff {text : String} :
    readPort text = .ok port ↔ SpellsInteger text.toList port.toNat := by
  have hlt := port.toNat_lt
  constructor
  · intro h
    unfold readPort at h
    split at h
    · cases h
    · rename_i n hn
      split at h
      · rename_i hrange
        cases h
        have hn' : ((UInt16.ofNat n.toNat).toNat : Int) = n := by
          rw [UInt16.toNat_ofNat_of_lt' (by have := hrange.2; simp only [UInt16.size]; omega)]
          exact Int.toNat_of_nonneg hrange.1
        rw [hn']
        exact IntegerRange.spells_of_read hn
      · cases h
  · intro h
    have hread : IntegerRange.signed64.read text.toList = .ok port.toNat := by
      refine (IntegerRange.read_eq_ok_iff_spells (by decide)).2 ⟨h, ?_, ?_⟩ <;>
        simp only [IntegerRange.signed64] <;> omega
    rw [readPort, hread]
    dsimp only
    rw [if_pos ⟨by omega, by omega⟩, Int.toNat_natCast, UInt16.ofNat_toNat]

theorem readServerIp_eq_ok_iff {text : String} :
    readServerIp text = .ok ip ↔ IpAddress.read? text = some ip := by
  unfold readServerIp
  cases IpAddress.read? text with
  | none => simp
  | some ip => simp

theorem readWord64_eq_ok_iff {text : String} :
    readWord64 text = .ok n ↔
      SpellsInteger text.toList n ∧ text.toList.head? ≠ some '-' ∧ n ≤ 0xFFFFFFFFFFFFFFFF := by
  have hread : IntegerRange.unsigned64.read text.toList = .ok n ↔
      SpellsInteger text.toList n ∧ text.toList.head? ≠ some '-' ∧ n ≤ 0xFFFFFFFFFFFFFFFF := by
    rw [IntegerRange.read_unsigned_eq_ok_iff rfl, Int.ofNat_le]
    rfl
  rw [← hread]
  unfold readWord64
  constructor
  · intro h
    split at h
    · cases h
    · rename_i m hm
      cases h
      rw [hm, Int.toNat_of_nonneg (IntegerRange.mem_of_read_eq_ok hm).1]
  · intro h
    rw [h]
    rfl

end Values

open Parameter CommandGrammar

/-- What the values on a command line and in the environment tell the sending side: there are three
that go by their place, each option has one at most, and nothing else is told. -/
structure Configures (env : Environment) (pieces : List Piece) (config : SenderConfig) : Prop where
  positionals : ∃ port ip delay, positionalValues pieces = [port, ip, delay] ∧
    SpellsPort port config.server.port ∧ SpellsIp ip config.server.ip ∧
    SpellsDelay delay config.delay
  zone : config.server.zone = 0
  limit : List.Forall₂ SpellsWord64 (optionSources env pieces "count" "ADC_COUNT")
    config.limit.toList
  seed : List.Forall₂ (fun value seed => SpellsWord64 value seed.toNat)
    (optionSources env pieces "seed" "ADC_SEED") config.seed.toList

/-! ## Parameters -/

/-- Reads a delay, and says in words why there is none. -/
def readDelay (text : String) : Except String Duration :=
  (Duration.readMillis text).mapError DelayError.message

theorem readDelay_eq_ok_iff {text : String} {delay : Duration} :
    readDelay text = .ok delay ↔ Duration.readMillis text = .ok delay := by
  unfold readDelay
  cases Duration.readMillis text with
  | error e => simp [Except.mapError]
  | ok d => simp [Except.mapError]

theorem exists_sender_positionals :
    ∃ port ip delay : Parameter SenderDraft,
      senderGrammar.positionals = [port, ip, delay] ∧
      port.Sets readPort (fun d x => { d with port := some x }) ∧
      ip.Sets readServerIp (fun d x => { d with ip := some x }) ∧
      delay.Sets readDelay (fun d x => { d with delay := some x }) := by
  refine ⟨_, _, _, rfl, ?_, ?_, ?_⟩ <;> intro d text <;> dsimp only
  · cases readPort text <;> rfl
  · cases readServerIp text <;> rfl
  · unfold readDelay
    cases Duration.readMillis text <;> rfl

theorem exists_sender_options :
    ∃ count seed : NamedParameter SenderDraft,
      senderGrammar.options = [count, seed] ∧
      (count.name = "count" ∧ count.envName = "ADC_COUNT") ∧
      (seed.name = "seed" ∧ seed.envName = "ADC_SEED") ∧
      count.Sets readWord64 (fun d x => { d with count := some x }) ∧
      seed.Sets readWord64 (fun d x => { d with seed := some x }) := by
  refine ⟨_, _, rfl, ⟨rfl, rfl⟩, ⟨rfl, rfl⟩, ?_, ?_⟩ <;> intro d text <;> dsimp only
  · cases readWord64 text <;> rfl
  · cases readWord64 text <;> rfl

theorem Parameter.Sets.refusesDash {α β : Type} {p : Parameter α} {read : String → Except String β}
    {put : α → β → α} (hp : p.Sets read put) (hread : ∀ x, read "-" ≠ .ok x) : p.RefusesDash := by
  intro a b h
  obtain ⟨x, ⟨text, htext, hx⟩, -⟩ := hp.accept_eq_ok_iff.1 h
  have hdash : encodeText text = encodeText "-" := htext
  rw [encodeText_injective hdash] at hx
  exact hread x hx

theorem senderGrammar_names : senderGrammar.names = ["count", "seed"] := rfl

theorem senderGrammar_lawful : senderGrammar.Lawful := by
  obtain ⟨port, ip, delay, hpositionals, hport, hip, hdelay⟩ := exists_sender_positionals
  obtain ⟨count, seed, hoptions, ⟨hcount, -⟩, ⟨hseed, -⟩, hsetc, hsets⟩ := exists_sender_options
  have hword : ∀ x, readWord64 "-" ≠ .ok x := by
    have : readWord64 "-" = .error "invalid digit found in string" := by decide
    simp [this]
  constructor
  · rw [hoptions]
    simp only [List.forall_mem_cons, hcount, hseed, List.not_mem_nil, false_imp_iff, implies_true,
      and_true]
    exact ⟨⟨by decide, by decide⟩, ⟨by decide, by decide⟩⟩
  · rw [hoptions]
    simp [hcount, hseed]
  · rw [senderGrammar_names]
    decide
  · rw [hpositionals]
    simp only [List.forall_mem_cons, List.not_mem_nil, false_imp_iff, implies_true, and_true]
    refine ⟨hport.refusesDash ?_, hip.refusesDash ?_, hdelay.refusesDash ?_⟩
    · have : readPort "-" = .error "invalid digit found in string" := by decide
      simp [this]
    · have : readServerIp "-" = .error "invalid IP address syntax" := by decide
      simp [this]
    · have : Duration.readMillis "-" = .error (.notANumber "-") := by decide
      simp [readDelay_eq_ok_iff, this]
  · rw [hoptions]
    simp only [List.forall_mem_cons, List.not_mem_nil, false_imp_iff, implies_true, and_true]
    exact ⟨hsetc.refusesDash hword, hsets.refusesDash hword⟩

/-! ## Drafts -/

/-- What is gathered from pieces: each value where it belongs, and nothing else. -/
structure Filled (pieces : List Piece) (d : SenderDraft) : Prop where
  length_le : (positionalValues pieces).length ≤ 3
  port : Option.Rel (ReadsText readPort) (positionalValues pieces)[0]? d.port
  ip : Option.Rel (ReadsText readServerIp) (positionalValues pieces)[1]? d.ip
  delay : Option.Rel (ReadsText readDelay) (positionalValues pieces)[2]? d.delay
  count : List.Forall₂ (ReadsText readWord64) (optionValues "count" pieces) d.count.toList
  seed : List.Forall₂ (ReadsText readWord64) (optionValues "seed" pieces) d.seed.toList

variable {pieces : List Piece} {c : Gathering SenderDraft} {d d' : SenderDraft}

theorem Filled.unique (h : Filled pieces d) (h' : Filled pieces d') : d = d' := by
  obtain ⟨port, ip, delay, count, seed⟩ := d
  obtain ⟨-, hport, hip, hdelay, hcount, hseed⟩ := h
  cases ReadsText.eq_of_rel hport h'.port
  cases ReadsText.eq_of_rel hip h'.ip
  cases ReadsText.eq_of_rel hdelay h'.delay
  cases ReadsText.eq_of_forall₂ hcount h'.count
  cases ReadsText.eq_of_forall₂ hseed h'.seed
  rfl

theorem filled_of_stores
    (h : Stores senderGrammar.options ⟨{}, senderGrammar.positionals, []⟩ pieces c) :
    Filled pieces c.values := by
  obtain ⟨port, ip, delay, hpositionals, hport, hip, hdelay⟩ := exists_sender_positionals
  obtain ⟨count, seed, hoptions, ⟨hcount, -⟩, ⟨hseed, -⟩, hsetc, hsets⟩ := exists_sender_options
  rw [hpositionals, hoptions] at h
  have hne : count.name ≠ seed.name := by rw [hcount, hseed]; decide
  constructor
  · exact h.length_positionalValues_le
  · refine h.positional_field [] [ip, delay] rfl (hport.writes fun _ _ => rfl) ?_ ?_ rfl
    · simp [hip.keeps, hdelay.keeps]
    · simp [hsetc.keeps, hsets.keeps]
  · refine h.positional_field [port] [delay] rfl (hip.writes fun _ _ => rfl) ?_ ?_ rfl
    · simp [hport.keeps, hdelay.keeps]
    · simp [hsetc.keeps, hsets.keeps]
  · refine h.positional_field [port, ip] [] rfl (hdelay.writes fun _ _ => rfl) ?_ ?_ rfl
    · simp [hport.keeps, hip.keeps]
    · simp [hsetc.keeps, hsets.keeps]
  · rw [← hcount]
    refine h.option_field ?_ ?_ ?_ List.not_mem_nil rfl
    · simp [hsetc.writes, hne.symm]
    · simp [hsets.keeps]
    · simp [hport.keeps, hip.keeps, hdelay.keeps]
  · rw [← hseed]
    refine h.option_field ?_ ?_ ?_ List.not_mem_nil rfl
    · simp [hsets.writes, hne]
    · simp [hsetc.keeps]
    · simp [hport.keeps, hip.keeps, hdelay.keeps]

/-- A draft that lacks nothing has been filled from three values in their places. -/
theorem Filled.exists_positionals (h : Filled pieces d) {port : UInt16} {ip : IpAddress}
    {delay : Duration} (hport : d.port = some port) (hip : d.ip = some ip)
    (hdelay : d.delay = some delay) :
    ∃ first second third, positionalValues pieces = [first, second, third] ∧
      ReadsText readPort first port ∧ ReadsText readServerIp second ip ∧
      ReadsText readDelay third delay := by
  obtain ⟨hlen, hp, hi, hd, -, -⟩ := h
  rw [hport] at hp
  rw [hip] at hi
  rw [hdelay] at hd
  match positionalValues pieces, hlen, hp, hi, hd with
  | [], _, hp, _, _ => cases hp
  | [_], _, _, hi, _ => cases hi
  | [_, _], _, _, _, hd => cases hd
  | [first, second, third], _, .some hp, .some hi, .some hd =>
    exact ⟨first, second, third, rfl, hp, hi, hd⟩
  | _ :: _ :: _ :: _ :: _, hlen, _, _, _ =>
    simp only [List.length_cons] at hlen
    omega

/-- No option has two values, for a draft holds one at most. -/
theorem Filled.nodup_optionNames (h : Filled pieces d)
    (hnames : optionNames pieces ⊆ ["count", "seed"]) : (optionNames pieces).Nodup := by
  have hle : ∀ o : Option Nat, o.toList.length ≤ 1 := fun o => by cases o <;> simp
  refine List.nodup_iff_count_le_one.2 fun name => ?_
  by_cases hname : name ∈ optionNames pieces
  · rw [count_optionNames]
    rcases List.mem_cons.1 (hnames hname) with rfl | hseed
    · exact h.count.length_eq ▸ hle d.count
    · rw [List.mem_singleton.1 hseed]
      exact h.seed.length_eq ▸ hle d.seed
  · rw [List.count_eq_zero.2 hname]
    exact Nat.zero_le 1

theorem exists_stores_of_filled (h : Filled pieces d)
    (hnames : optionNames pieces ⊆ ["count", "seed"]) :
    ∃ c, Stores senderGrammar.options ⟨{}, senderGrammar.positionals, []⟩ pieces c ∧
      c.values = d := by
  obtain ⟨port, ip, delay, hpositionals, hport, hip, hdelay⟩ := exists_sender_positionals
  obtain ⟨count, seed, hoptions, ⟨hcount, -⟩, ⟨hseed, -⟩, hsetc, hsets⟩ := exists_sender_options
  have hstores : ∃ c,
      Stores senderGrammar.options ⟨{}, senderGrammar.positionals, []⟩ pieces c := by
    rw [hpositionals, hoptions]
    refine exists_stores h.length_le ?_ ?_ (h.nodup_optionNames hnames)
    · intro i p value hp hv
      match i with
      | 0 =>
        cases hp
        exact hport.takes_of_rel (hv ▸ h.port)
      | 1 =>
        cases hp
        exact hip.takes_of_rel (hv ▸ h.ip)
      | 2 =>
        cases hp
        exact hdelay.takes_of_rel (hv ▸ h.delay)
      | i + 3 => cases hp
    · intro name value hmem
      have hvalue := mem_optionValues_of_mem hmem
      rcases List.mem_cons.1 (hnames (mem_optionNames_of_mem hmem)) with rfl | hname
      · exact ⟨count, by simp, hcount, hsetc.takes_of_forall₂ h.count value hvalue⟩
      · cases List.mem_singleton.1 hname
        exact ⟨seed, by simp, hseed, hsets.takes_of_forall₂ h.seed value hvalue⟩
  obtain ⟨c, hc⟩ := hstores
  -- What was gathered is filled from the same pieces, which leaves it no choice.
  exact ⟨c, hc, (filled_of_stores hc).unique h⟩

/-! ## Configurations -/

variable {env : Environment} {args : List Bytes} {config : SenderConfig}

/-- The draft that becomes a configuration. -/
def SenderConfig.draft (config : SenderConfig) : SenderDraft where
  port := some config.server.port
  ip := some config.server.ip
  delay := some config.delay
  count := config.limit
  seed := config.seed.map UInt64.toNat

theorem SenderDraft.config_eq_ok_iff :
    d.config = .ok config ↔
      (d.port = some config.server.port ∧ d.ip = some config.server.ip ∧
        d.delay = some config.delay) ∧
      config.server.zone = 0 ∧ d.count = config.limit ∧ d.seed.map UInt64.ofNat = config.seed := by
  unfold SenderDraft.config
  constructor
  · intro h
    split at h
    · rename_i hport hip hdelay
      cases h
      exact ⟨⟨hport, hip, hdelay⟩, rfl, rfl, rfl⟩
    · cases h
  · rintro ⟨⟨hport, hip, hdelay⟩, hzone, hlimit, hseed⟩
    rw [hport, hip, hdelay, hlimit, hseed]
    dsimp only
    rw [← hzone]

theorem readsText_readPort_iff {value : Bytes} {port : UInt16} :
    ReadsText readPort value port ↔ SpellsPort value port :=
  exists_congr fun _ => and_congr_right fun _ => readPort_eq_ok_iff

theorem readsText_readServerIp_iff {value : Bytes} {ip : IpAddress} :
    ReadsText readServerIp value ip ↔ SpellsIp value ip :=
  exists_congr fun _ => and_congr_right fun _ => readServerIp_eq_ok_iff

theorem readsText_readDelay_iff {value : Bytes} {delay : Duration} :
    ReadsText readDelay value delay ↔ SpellsDelay value delay :=
  exists_congr fun _ => and_congr_right fun _ => readDelay_eq_ok_iff

theorem readsText_readWord64_iff {value : Bytes} {n : Nat} :
    ReadsText readWord64 value n ↔ SpellsWord64 value n :=
  exists_congr fun _ => and_congr_right fun _ => readWord64_eq_ok_iff

theorem SpellsWord64.toNat_ofNat {value : Bytes} {n : Nat} (h : SpellsWord64 value n) :
    (UInt64.ofNat n).toNat = n := by
  obtain ⟨text, -, -, -, hn⟩ := h
  exact UInt64.toNat_ofNat_of_lt' (by simp only [UInt64.size]; omega)

/-- A filled draft makes a configuration exactly if its values configure the sending side. -/
theorem exists_filled_iff {all : List Piece}
    (hpositionals : positionalValues all = positionalValues pieces)
    (hcount : optionValues "count" all = optionSources env pieces "count" "ADC_COUNT")
    (hseed : optionValues "seed" all = optionSources env pieces "seed" "ADC_SEED") :
    (∃ d, Filled all d ∧ d.config = .ok config) ↔ Configures env pieces config := by
  constructor
  · rintro ⟨d, hfilled, hd⟩
    obtain ⟨⟨hport, hip, hdelay⟩, hzone, hlimit, hcseed⟩ := SenderDraft.config_eq_ok_iff.1 hd
    refine ⟨?_, hzone, ?_, ?_⟩
    · obtain ⟨port, ip, delay, hvalues, hp, hi, hdel⟩ := hfilled.exists_positionals hport hip hdelay
      exact ⟨port, ip, delay, hpositionals ▸ hvalues, readsText_readPort_iff.1 hp,
        readsText_readServerIp_iff.1 hi, readsText_readDelay_iff.1 hdel⟩
    · rw [← hcount, ← hlimit]
      exact hfilled.count.imp fun _ _ => readsText_readWord64_iff.1
    · rw [← hseed, ← hcseed, Option.toList_map, List.forall₂_map_right_iff]
      refine hfilled.seed.imp fun value n h => ?_
      have hword := readsText_readWord64_iff.1 h
      -- A word that was in range is not cut when it becomes a seed.
      rw [hword.toNat_ofNat]
      exact hword
  · rintro ⟨⟨port, ip, delay, hvalues, hport, hip, hdelay⟩, hzone, hlimit, hcseed⟩
    refine ⟨config.draft, ⟨?_, ?_, ?_, ?_, ?_, ?_⟩, ?_⟩
    · rw [hpositionals, hvalues]
      exact Nat.le_refl 3
    · rw [hpositionals, hvalues]
      exact .some (readsText_readPort_iff.2 hport)
    · rw [hpositionals, hvalues]
      exact .some (readsText_readServerIp_iff.2 hip)
    · rw [hpositionals, hvalues]
      exact .some (readsText_readDelay_iff.2 hdelay)
    · rw [hcount]
      exact hlimit.imp fun _ _ => readsText_readWord64_iff.2
    · rw [hseed, SenderConfig.draft, Option.toList_map, List.forall₂_map_right_iff]
      exact hcseed.imp fun _ _ => readsText_readWord64_iff.2
    · refine SenderDraft.config_eq_ok_iff.2 ⟨⟨rfl, rfl, rfl⟩, hzone, rfl, ?_⟩
      unfold SenderConfig.draft
      cases config.seed with
      | none => rfl
      | some seed => simp

theorem SenderConfig.ofArguments_eq_ok_iff :
    SenderConfig.ofArguments env args = .ok config ↔
      ∃ pieces, Laid ["count", "seed"] args pieces ∧ Configures env pieces config := by
  obtain ⟨count, seed, hoptions, ⟨hcount, hcountEnv⟩, ⟨hseed, hseedEnv⟩, -, -⟩ :=
    exists_sender_options
  have hbind : SenderConfig.ofArguments env args = .ok config ↔
      ∃ d, senderGrammar.read env {} args = .ok d ∧ d.config = .ok config := bind_eq_ok_iff
  have hfilled : ∀ pieces, Configures env pieces config ↔
      ∃ d, Filled (pieces ++ variablePieces env (optionNames pieces) senderGrammar.options) d ∧
        d.config = .ok config := by
    intro pieces
    refine (exists_filled_iff ?_ ?_ ?_).symm
    · rw [positionalValues_append, positionalValues_variablePieces, List.append_nil]
    · rw [← hcount, ← hcountEnv]
      exact optionValues_append_variablePieces senderGrammar_lawful (by simp [hoptions])
    · rw [← hseed, ← hseedEnv]
      exact optionValues_append_variablePieces senderGrammar_lawful (by simp [hoptions])
  simp only [hbind, read_eq_ok_iff senderGrammar_lawful, senderGrammar_names, hfilled]
  constructor
  · rintro ⟨_, ⟨pieces, c, hlaid, hstores, rfl⟩, hd⟩
    exact ⟨pieces, hlaid, c.values, filled_of_stores hstores, hd⟩
  · rintro ⟨pieces, hlaid, d, hd, hconfig⟩
    have hnames : optionNames (pieces ++ variablePieces env (optionNames pieces)
        senderGrammar.options) ⊆ ["count", "seed"] :=
      optionNames_append_variablePieces_subset hlaid.optionNames_subset
    obtain ⟨c, hstores, rfl⟩ := exists_stores_of_filled hd hnames
    exact ⟨_, ⟨pieces, c, hlaid, hstores, rfl⟩, hconfig⟩

/-- Equal values in their places and for the options are all that a configuration depends on. -/
theorem Configures.congr {env' : Environment} {pieces' : List Piece}
    (hpositionals : positionalValues pieces = positionalValues pieces')
    (hcount : optionSources env pieces "count" "ADC_COUNT" =
      optionSources env' pieces' "count" "ADC_COUNT")
    (hseed : optionSources env pieces "seed" "ADC_SEED" =
      optionSources env' pieces' "seed" "ADC_SEED")
    (h : Configures env pieces config) : Configures env' pieces' config :=
  ⟨hpositionals ▸ h.positionals, h.zone, hcount ▸ h.limit, hseed ▸ h.seed⟩

theorem SenderConfig.ofArguments_eq_ok_iff_configures (hlaid : Laid ["count", "seed"] args pieces) :
    SenderConfig.ofArguments env args = .ok config ↔ Configures env pieces config := by
  have hnames : ∀ name ∈ ["count", "seed"], IsOptionName name :=
    senderGrammar_lawful.names_isOptionName
  rw [SenderConfig.ofArguments_eq_ok_iff]
  constructor
  · rintro ⟨other, hother, h⟩
    rwa [hlaid.unique hnames hother]
  · intro h
    exact ⟨pieces, hlaid, h⟩

/-- **What the sending side runs with.** A command line is accepted, together with an environment,
exactly if its arguments are values in their places and options, and these values are right; it
then says what they say. Where the options stand, how their values are joined to their names, and
whether a value comes from the command line or from the environment makes no difference. -/
theorem SenderConfig.ofArguments_accepts :
    (∀ (env : Environment) (args : List Bytes) (config : SenderConfig),
      SenderConfig.ofArguments env args = .ok config ↔
        ∃ pieces, Laid ["count", "seed"] args pieces ∧ Configures env pieces config) ∧
    ∀ (env env' : Environment) (args args' : List Bytes) (pieces pieces' : List Piece),
      Laid ["count", "seed"] args pieces → Laid ["count", "seed"] args' pieces' →
      positionalValues pieces = positionalValues pieces' →
      optionSources env pieces "count" "ADC_COUNT" =
        optionSources env' pieces' "count" "ADC_COUNT" →
      optionSources env pieces "seed" "ADC_SEED" =
        optionSources env' pieces' "seed" "ADC_SEED" →
      ∀ config, SenderConfig.ofArguments env args = .ok config ↔
        SenderConfig.ofArguments env' args' = .ok config := by
  refine ⟨fun env args config => ofArguments_eq_ok_iff, ?_⟩
  intro env env' args args' pieces pieces' hlaid hlaid' hpositionals hcount hseed config
  rw [ofArguments_eq_ok_iff_configures hlaid, ofArguments_eq_ok_iff_configures hlaid']
  exact ⟨.congr hpositionals hcount hseed, .congr hpositionals.symm hcount.symm hseed.symm⟩

/-- A count on the command line, among the values in their places, or in the environment. -/
theorem SenderConfig.ofArguments_accepts_variable :
    ∃ config : SenderConfig, config.limit = some 5 ∧
      SenderConfig.ofArguments [] (["5000", "--count=5", "127.0.0.1", "10"].map encodeText) =
        .ok config ∧
      SenderConfig.ofArguments [("ADC_COUNT", encodeText "5")]
        (["5000", "127.0.0.1", "10"].map encodeText) = .ok config := by
  have hequals : ["5000", "--count=5", "127.0.0.1", "10"].map encodeText =
      [encodeText "5000", encodeText ("--" ++ "count" ++ "=") ++ encodeText "5",
        encodeText "127.0.0.1", encodeText "10"] := by decide
  have hjoined : Laid ["count", "seed"]
      (["5000", "--count=5", "127.0.0.1", "10"].map encodeText)
      [.positional (encodeText "5000"), .option "count" (encodeText "5"),
        .positional (encodeText "127.0.0.1"), .positional (encodeText "10")] := by
    rw [hequals]
    exact .positional (by decide) (.joined (by decide) (.positional (by decide)
      (.positional (by decide) .nil)))
  have hplain : Laid ["count", "seed"] (["5000", "127.0.0.1", "10"].map encodeText)
      [.positional (encodeText "5000"), .positional (encodeText "127.0.0.1"),
        .positional (encodeText "10")] :=
    .positional (by decide) (.positional (by decide) (.positional (by decide) .nil))
  have hread : SenderConfig.ofArguments []
      (["5000", "--count=5", "127.0.0.1", "10"].map encodeText) =
        .ok { server := { ip := .loopback, port := 5000 }, delay := .ofMillis 10
              limit := some 5 } := by
    decide +kernel
  have hsame := SenderConfig.ofArguments_accepts.2 [] [("ADC_COUNT", encodeText "5")] _ _ _ _
    hjoined hplain rfl (by decide) (by decide)
  exact ⟨_, rfl, hread, (hsame _).1 hread⟩

end AdcFeed

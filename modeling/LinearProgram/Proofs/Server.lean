/-
  Server — what the switches of the inspection server come to.

  1. **Arguments** — the arguments reflect what the switches were given, the last value of each. The
     invariant is kept switch by switch (`Arguments.Reflects.take`), and so it holds of them all.

  2. **Overriding** — a value on the command line prevails over the configured one if it counts.
     Hosts and levels count unless they are empty, and numbers unless they are zero: what does not
     count leaves the setting to the configuration, as if it were not given.

  3. **Requests** — a run that comes to its end asks for one transport, with the values that prevail
     (`run_honours`).
-/

import LinearProgram.Proofs.CommandLine
import LinearProgram.Server

namespace LinearProgram.Server

open CommandLine (Gives takeAll valueOf valueOf_concat)

/-! ## Arguments -/

/-- The configuration that the switches choose. -/
def choiceOf (given : List (Key × Option Text)) : Settings.Choice :=
  ((given.reverse.lookup .configuration).map Settings.Choice.ofValue).getD .standard

/-- A switch sets its own field of the arguments, and only that. -/
structure Arguments.Sets (key : Key) (value : Option Text) (a a' : Arguments) : Prop where
  http : a'.http = true ↔ .http = key ∨ a.http = true
  host : a'.host = if .host = key then value else a.host
  portNumber : a'.portNumber = if .portNumber = key then
    value.bind (Decimal.Integer.read? longestPortNumber) else a.portNumber
  logLevel : a'.logLevel = if .logLevel = key then value else a.logLevel
  configuration : a'.configuration = if key = .configuration then .ofValue value
    else a.configuration

theorem Arguments.sets_of_take {key : Key} {value : Option Text} {a a' : Arguments}
    (h : Arguments.take key value a = .ok a') : Sets key value a a' := by
  cases key with
  | standardStreams =>
    unfold Arguments.take at h
    dsimp only at h
    split at h
    · cases h
    · cases h
      constructor <;> simp
  | http =>
    unfold Arguments.take at h
    dsimp only at h
    split at h
    · cases h
    · cases h
      constructor <;> simp
  | host =>
    cases h
    constructor <;> simp
  | portNumber =>
    unfold Arguments.take at h
    dsimp only at h
    split at h
    · cases h
      constructor <;> simp
    · next t =>
      split at h
      · next n hn =>
        cases h
        constructor <;> simp [hn]
      · cases h
  | logLevel =>
    cases h
    constructor <;> simp
  | configuration =>
    cases h
    constructor <;> simp

/-- The arguments are what the switches were given. -/
structure Arguments.Reflects (given : List (Key × Option Text)) (a : Arguments) : Prop where
  http : a.http = true ↔ .http ∈ given.map Prod.fst
  host : a.host = valueOf .host given
  portNumber : a.portNumber =
    (valueOf .portNumber given).bind (Decimal.Integer.read? longestPortNumber)
  logLevel : a.logLevel = valueOf .logLevel given
  configuration : a.configuration = choiceOf given

section

variable {given : List (Key × Option Text)}

theorem choiceOf_concat (key : Key) (value : Option Text) :
    choiceOf (given ++ [(key, value)]) =
      if key = .configuration then .ofValue value else choiceOf given := by
  unfold choiceOf
  rw [List.reverse_concat, List.lookup_cons]
  by_cases h : key = .configuration
  · simp [h]
  · rw [beq_eq_false_iff_ne.mpr (Ne.symm h), if_neg h]

theorem mem_keys_concat (key key' : Key) (value : Option Text) :
    key ∈ (given ++ [(key', value)]).map Prod.fst ↔ key = key' ∨ key ∈ given.map Prod.fst := by
  simp [or_comm]

/-- **A switch that is taken is reflected.** -/
theorem Arguments.Reflects.take {a a' : Arguments} (h : a.Reflects given) {key : Key}
    {value : Option Text} (htake : Arguments.take key value a = .ok a') :
    a'.Reflects (given ++ [(key, value)]) := by
  have hset := sets_of_take htake
  refine ⟨?_, ?_, ?_, ?_, ?_⟩
  · rw [hset.http, mem_keys_concat, h.http]
  · rw [hset.host, valueOf_concat, h.host]
  · rw [hset.portNumber, valueOf_concat, h.portNumber]
    split
    · rfl
    · rfl
  · rw [hset.logLevel, valueOf_concat, h.logLevel]
  · rw [hset.configuration, choiceOf_concat, h.configuration]

/-- **The arguments reflect all that is given.** -/
theorem Arguments.Reflects.takeAll {a a' : Arguments} (h : a.Reflects given)
    {more : List (Key × Option Text)} (htake : takeAll Arguments.take a more = .ok a') :
    a'.Reflects (given ++ more) := by
  induction more generalizing given a with
  | nil =>
    cases htake
    rw [List.append_nil]
    exact h
  | cons gift more ih =>
    obtain ⟨key, value⟩ := gift
    rw [CommandLine.takeAll_cons] at htake
    cases hfirst : Arguments.take key value a with
    | error refusal =>
      rw [hfirst] at htake
      cases htake
    | ok b =>
      rw [hfirst] at htake
      rw [List.append_cons]
      exact ih (h.take hfirst) htake

theorem Arguments.reflects_nil : Arguments.Reflects [] {} := ⟨by simp, rfl, rfl, rfl, rfl⟩

end

/-- Arguments that are read give something to the switches, and reflect it. -/
theorem Arguments.reflects_of_read {arguments : List Text} {a : Arguments}
    (h : Arguments.read arguments = .ok a) :
    (∃ given, Gives usage arguments given) ∧
      ∀ given, Gives usage arguments given → a.Reflects given := by
  have hdivider : CommandLine.word usage ['-', '-'] = .error .misuse := rfl
  refine ⟨CommandLine.exists_gives_of_read rfl h, fun given hgiven => ?_⟩
  unfold Arguments.read at h
  rw [CommandLine.read_of_gives rfl hdivider _ hgiven] at h
  exact reflects_nil.takeAll h

/-! ## Overriding -/

/-- Of a value that may be given and a configured one, the given one prevails if it counts; otherwise
    the configured one does. -/
def Prevails {α β : Type} (counts : α → Prop) (given? : Option α) (shown : α → β)
    (configured asked : β) : Prop :=
  (∀ v, given? = some v → counts v → asked = shown v) ∧
    ((∀ v, given? = some v → ¬ counts v) → asked = configured)

/-- What counts as nothing does not prevail. -/
theorem prevails_orElse {α : Type} {counts : α → Prop} {shown : α → Setting}
    (h : ∀ v, (shown v).isVoid = false ↔ counts v) (given? : Option α) (configured : Setting) :
    Prevails counts given? shown configured (Setting.orElse (given?.map shown) configured) := by
  constructor
  · rintro v rfl hv
    show (if (shown v).isVoid = true then configured else shown v) = shown v
    rw [(h v).mpr hv, if_neg Bool.false_ne_true]
  · intro hnone
    cases given? with
    | none => rfl
    | some v =>
      have hvoid : (shown v).isVoid = true := by
        rw [← Bool.not_eq_false]
        exact fun hv => hnone v rfl ((h v).mp hv)
      exact if_pos hvoid

/-- The level that is configured, which must be a text. -/
def configuredLevel (settings : Settings) : Option Text :=
  match (settings.get? "log_level").getD (.text "INFO".toList) with
  | .text level => some level.upper
  | _ => none

/-- A level that is not empty prevails, in upper case. -/
theorem prevails_setup {settings : Settings} {level? : Option Text} {setup : Log.Setup}
    (h : Log.setup settings level? = .ok setup) :
    Prevails (· ≠ []) level? (fun level => some (Text.upper level)) (configuredLevel settings)
      (some setup.level) := by
  unfold Log.setup at h
  split at h
  · cases h
  · next wish hwish =>
    have hlevel : setup.level = wish.level := by
      split at h
      · cases h
      · split at h
        · cases h
        · cases h
          rfl
    rw [hlevel]
    unfold Log.resolve at hwish
    unfold configuredLevel
    constructor
    · rintro level rfl hne
      cases level with
      | nil => exact absurd rfl hne
      | cons c cs =>
        cases hwish
        rfl
    · intro hnone
      have hempty : level?.getD [] = [] := by
        cases level? with
        | none => rfl
        | some level => exact Decidable.not_not.mp (hnone level rfl)
      rw [hempty] at hwish
      dsimp only at hwish
      split at hwish
      · next hcons => cases hcons
      · next level hlevel =>
        rw [hlevel]
        cases hwish
        rfl
      · cases hwish

/-! ## Requests -/

/-- The level that a transport is asked for. -/
def Transport.level : Transport → Text
  | .standardStreams level => level
  | .http _ _ level => level

/-- A transport as the switches and, behind them, the settings want it. -/
structure Transport.Honours (given : List (Key × Option Text)) (settings : Settings)
    (t : Transport) : Prop where
  standardStreams : .http ∉ given.map Prod.fst → t = .standardStreams t.level
  http : .http ∈ given.map Prod.fst → ∃ host portNumber, t = .http host portNumber t.level ∧
    Prevails (· ≠ []) (valueOf .host given) Setting.text
      ((settings.get? "http_host").getD standardHost) host ∧
    Prevails (· ≠ 0) ((valueOf .portNumber given).bind (Decimal.Integer.read? longestPortNumber))
      Setting.integer ((settings.get? "http_port").getD standardPortNumber) portNumber
  level : Prevails (· ≠ []) (valueOf .logLevel given) (fun level => some (Text.upper level))
    (configuredLevel settings) (some t.level)

theorem honours_transport {given : List (Key × Option Text)} {settings : Settings} {a : Arguments}
    (ha : a.Reflects given) {setup : Log.Setup} (hsetup : Log.setup settings a.logLevel = .ok setup) :
    (transport a settings setup.level).Honours given settings := by
  have hlevel : (transport a settings setup.level).level = setup.level := by
    unfold transport
    split
    · rfl
    · rfl
  refine ⟨?_, ?_, ?_⟩
  · intro hnot
    rw [hlevel]
    exact if_neg fun hhttp => hnot (ha.http.mp hhttp)
  · intro hmem
    rw [hlevel]
    refine ⟨host a settings, portNumber a settings, if_pos (ha.http.mpr hmem), ?_, ?_⟩
    · rw [← ha.host]
      exact prevails_orElse (fun _ => by simp [Setting.isVoid, Scalar.isVoid]) _ _
    · rw [← ha.portNumber]
      exact prevails_orElse (fun _ => by simp [Setting.isVoid, Scalar.isVoid]) _ _
  · rw [hlevel, ← ha.logLevel]
    exact prevails_setup hsetup

/-- **Switches override the configuration**, whatever reads it and whatever it holds. A run that comes
    to its end asks for one transport. This honours whatever the arguments give to the switches, in
    one way or another: a host and a level that are not empty, and a number that is not zero, are
    asked for as they were given, whatever the configuration says. -/
theorem run_honours {reader : Settings.Reader} {store : Store} {standard : Settings.Standard}
    {interrupted : Bool} {arguments : List Text} {status : Nat}
    (h : (run reader store standard interrupted arguments).ending = .done status) :
    (∃ given, Gives usage arguments given) ∧
      ∀ given, Gives usage arguments given → ∃ settings t,
        (Settings.loadOrDefaults reader store standard (choiceOf given) Settings.serverPart
          Log.serverChannel).1 = .ok settings ∧
        (run reader store standard interrupted arguments).asked = some t ∧
        t.Honours given settings := by
  unfold run at h ⊢
  cases hread : Arguments.read arguments with
  | error refusal =>
    rw [hread] at h
    cases h
  | ok a =>
    rw [hread] at h
    obtain ⟨hexists, hreflects⟩ := Arguments.reflects_of_read hread
    refine ⟨hexists, fun given hgiven => ?_⟩
    have ha := hreflects given hgiven
    dsimp only at h ⊢
    unfold ofArguments at h ⊢
    rw [ha.configuration] at h ⊢
    rcases hload : Settings.loadOrDefaults reader store standard (choiceOf given) Settings.serverPart
      Log.serverChannel with ⟨failure | settings, warnings⟩
    · rw [hload] at h
      cases h
    · rw [hload] at h
      dsimp only at h ⊢
      cases hsetup : Log.setup settings a.logLevel with
      | error failure =>
        rw [hsetup] at h
        cases h
      | ok setup => exact ⟨settings, _, rfl, rfl, honours_transport ha hsetup⟩

/-- The reader of a configuration that sets the number to serve on. -/
def readerOf (portNumber : Setting) : Settings.Reader := fun _ =>
  .ok (.mapping [ (.text Settings.serverPart,
    .mapping [Settings.setting "http_port" portNumber]) ])

/-- The store with such a configuration in it. -/
def configured : Store := fun _ => .ok "mcp_server:\n  http_port: 9000\n".toUTF8.toList

/-- The second number is the one that counts, and the number that is configured does not. -/
theorem run_honours_given_twice :
    (run (readerOf (.integer 9000)) configured .shipped false
      [ "--config".toList, "c.yaml".toList, "--http".toList, "--http-port".toList, "0".toList,
        "--log-level=debug".toList, "--http-port=81".toList ]).ending = .done 0 ∧
    ∃ settings t, (run (readerOf (.integer 9000)) configured .shipped false
        [ "--config".toList, "c.yaml".toList, "--http".toList, "--http-port".toList, "0".toList,
          "--log-level=debug".toList, "--http-port=81".toList ]).asked = some t ∧
      t.Honours [ (.configuration, some "c.yaml".toList), (.http, none),
        (.portNumber, some ['0']), (.logLevel, some "debug".toList),
        (.portNumber, some ['8', '1']) ] settings := by
  have hdone : (run (readerOf (.integer 9000)) configured .shipped false
      [ "--config".toList, "c.yaml".toList, "--http".toList, "--http-port".toList, "0".toList,
        "--log-level=debug".toList, "--http-port=81".toList ]).ending = .done 0 := rfl
  obtain ⟨settings, t, -, hasked, ht⟩ := (run_honours hdone).2 _
    (.apart rfl rfl rfl (.bare rfl rfl (.apart rfl rfl rfl (.joined rfl rfl
      (.joined rfl rfl .nil)))))
  exact ⟨hdone, settings, t, hasked, ht⟩

/-- A zero and what is empty are given, and yet the configuration prevails. -/
theorem not_overridden_zero :
    Gives usage
      [ "--config".toList, "c.yaml".toList, "--http".toList, "--http-port".toList, "0".toList,
        "--http-host".toList, [], "--log-level".toList, [] ]
      [ (.configuration, some "c.yaml".toList), (.http, none), (.portNumber, some ['0']),
        (.host, some []), (.logLevel, some []) ] ∧
    (run (readerOf (.integer 9000)) configured .shipped false
      [ "--config".toList, "c.yaml".toList, "--http".toList, "--http-port".toList, "0".toList,
        "--http-host".toList, [], "--log-level".toList, [] ]).asked =
      some (.http (.text "127.0.0.1".toList) (.integer 9000) "INFO".toList) := by
  have hgives : Gives usage
      [ "--config".toList, "c.yaml".toList, "--http".toList, "--http-port".toList, "0".toList,
        "--http-host".toList, [], "--log-level".toList, [] ] _ :=
    .apart rfl rfl rfl (.bare rfl rfl (.apart rfl rfl rfl (.apart rfl rfl rfl
      (.apart rfl rfl rfl .nil))))
  exact ⟨hgives, rfl⟩

end LinearProgram.Server

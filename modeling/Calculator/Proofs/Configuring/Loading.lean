import Calculator.Proofs.Serving.Calls

/-!
# Settings from variables

Five settings are read from texts that may make no sense.  Each has a reader of its own, and
all are alike in one respect: a reader accepts just the texts that its setting admits, and
of any other text it complains under the name of its setting (`Reads`).  A default is one of
the texts admitted, so a variable that is not set is never at fault.

The readers run one after the other and the first complaint ends the load, so what a load
fails with is the first setting that is invalid, in the order of `checked`
(`checked_ofEnvironment`).  That order is not the one in which settings are listed.

The name of the unit is read by its own list and is later understood by another, longer one.
They go together because both look at a text in lower case and without outer blanks: what
was read is in that form already, so it is understood as the variable itself would be
(`AngleUnit.ofText?_of_readAngleName`).
-/

namespace Calculator

open Calculator.Text

variable {α β : Type} {environment : Environment} {settings : Settings} {setting : Setting}

namespace Settings

/-! ### What settings admit -/

/-- The texts that a setting may be given. -/
def Admits : Setting → String → Prop
  | .logLevel, raw => upper raw ∈ Log.thresholdNames.names
  | .logFile, _ => True
  | .logJson, raw =>
    lower (trim raw) ∈ ["1", "true", "yes", "on", "0", "false", "no", "off", ""]
  | .angleUnit, raw => lower (trim raw) ∈ ["deg", "degrees", "rad", "radians"]
  | .mcpPort, raw | .webPort, raw =>
    ∃ port, Number.integer? raw = some port ∧ 1 ≤ port ∧ port ≤ 65535

instance (setting : Setting) (raw : String) : Decidable (Admits setting raw) :=
  match setting with
  | .logLevel => inferInstanceAs (Decidable (upper raw ∈ Log.thresholdNames.names))
  | .logFile => inferInstanceAs (Decidable True)
  | .logJson => inferInstanceAs (Decidable
      (lower (trim raw) ∈ ["1", "true", "yes", "on", "0", "false", "no", "off", ""]))
  | .angleUnit => inferInstanceAs (Decidable
      (lower (trim raw) ∈ ["deg", "degrees", "rad", "radians"]))
  | .mcpPort | .webPort =>
    decidable_of_iff
      ((Number.integer? raw).any fun port => decide (1 ≤ port ∧ port ≤ 65535)) (by
        simp [Admits, Option.any_eq_true])

/-- The variable of a setting is set to a text that the setting does not admit. -/
def Invalid (environment : Environment) (setting : Setting) : Prop :=
  ∃ raw, environment setting.variableName = some raw ∧ ¬ Admits setting raw

/-- The settings that can be invalid, in the order in which they are looked at. -/
def checked : List Setting :=
  [.logLevel, .angleUnit, .logJson, .mcpPort, .webPort]

/-- Of the settings in a row this is the first one that is invalid. -/
def FirstInvalid (environment : Environment) (row : List Setting) (setting : Setting) : Prop :=
  ∃ before after, row = before ++ setting :: after ∧ Invalid environment setting ∧
    ∀ earlier ∈ before, ¬ Invalid environment earlier

theorem firstInvalid_head {rest : List Setting} (h : Invalid environment setting) :
    FirstInvalid environment (setting :: rest) setting :=
  ⟨[], rest, rfl, h, List.forall_mem_nil _⟩

theorem FirstInvalid.cons {row : List Setting} {first : Setting}
    (h : FirstInvalid environment row setting) (hfirst : ¬ Invalid environment first) :
    FirstInvalid environment (first :: row) setting := by
  obtain ⟨before, after, rfl, hinvalid, hbefore⟩ := h
  exact ⟨first :: before, after, rfl, hinvalid, List.forall_mem_cons.2 ⟨hfirst, hbefore⟩⟩

theorem FirstInvalid.mem {row : List Setting} (h : FirstInvalid environment row setting) :
    setting ∈ row := by
  obtain ⟨before, after, rfl, -, -⟩ := h
  exact List.mem_append_right _ (List.mem_cons_self ..)

theorem FirstInvalid.invalid {row : List Setting} (h : FirstInvalid environment row setting) :
    Invalid environment setting := by
  obtain ⟨before, after, -, hinvalid, -⟩ := h
  exact hinvalid

/-- A setting with a default is invalid just if the text looked up is not admitted. -/
theorem invalid_iff {default : String} (hdefault : Admits setting default) :
    Invalid environment setting ↔ ¬ Admits setting (lookUp environment setting default) := by
  unfold Invalid lookUp
  cases environment setting.variableName with
  | none => simpa using hdefault
  | some raw => simp

/-! ### Readers -/

/-- A reader accepts just what its setting admits, and complains about its setting
otherwise. -/
def Reads (setting : Setting) (read : String → Except Failure α) : Prop :=
  ∀ raw, Admits setting raw ∧ (∃ a, read raw = .ok a) ∨
    ¬ Admits setting raw ∧ ∃ cause, read raw = .error (.misconfiguration cause) ∧
      cause.setting = setting

theorem reads_threshold : Reads .logLevel readThreshold := by
  intro raw
  unfold readThreshold
  cases hfound : Log.thresholdNames.get? (upper raw) with
  | some threshold => exact Or.inl ⟨Fields.mem_names_of_get? hfound, threshold, by simp [hfound]⟩
  | none =>
      exact Or.inr ⟨Fields.get?_eq_none_iff.1 hfound, .unknownLevel (upper raw),
        by simp [hfound], rfl⟩

theorem reads_angleName : Reads .angleUnit readAngleName := by
  intro raw
  unfold readAngleName
  by_cases hname : lower (trim raw) ∈ angleNames
  · exact Or.inl ⟨hname, _, if_pos (List.contains_iff_mem.2 hname)⟩
  · exact Or.inr ⟨hname, _, if_neg (mt List.contains_iff_mem.1 hname), rfl⟩

theorem reads_truth : Reads .logJson readTruth := by
  intro raw
  have hwords : Admits .logJson raw ↔ lower (trim raw) ∈ ["1", "true", "yes", "on"] ∨
      lower (trim raw) ∈ ["0", "false", "no", "off", ""] :=
    List.mem_append (s := ["1", "true", "yes", "on"])
  unfold readTruth
  by_cases htrue : lower (trim raw) ∈ ["1", "true", "yes", "on"]
  · exact Or.inl ⟨hwords.2 (Or.inl htrue), true, if_pos (List.contains_iff_mem.2 htrue)⟩
  by_cases hfalse : lower (trim raw) ∈ ["0", "false", "no", "off", ""]
  · refine Or.inl ⟨hwords.2 (Or.inr hfalse), false, ?_⟩
    dsimp only
    rw [if_neg (mt List.contains_iff_mem.1 htrue), if_pos (List.contains_iff_mem.2 hfalse)]
  · refine Or.inr ⟨fun hword => (hwords.1 hword).elim htrue hfalse, .notTruth raw, ?_, rfl⟩
    dsimp only
    rw [if_neg (mt List.contains_iff_mem.1 htrue), if_neg (mt List.contains_iff_mem.1 hfalse)]

theorem reads_port (hport : setting = .mcpPort ∨ setting = .webPort) :
    Reads setting (readPort setting) := by
  intro raw
  have hadmits : Admits setting raw ↔
      ∃ port, Number.integer? raw = some port ∧ 1 ≤ port ∧ port ≤ 65535 := by
    rcases hport with rfl | rfl <;> exact Iff.rfl
  rw [hadmits]
  unfold readPort
  cases hinteger : Number.integer? raw with
  | none => exact Or.inr ⟨by simp, _, rfl, rfl⟩
  | some port =>
      by_cases hrange : 1 ≤ port ∧ port ≤ 65535
      · refine Or.inl ⟨⟨port, rfl, hrange⟩, port.toNat, if_pos ?_⟩
        simp
        omega
      · refine Or.inr ⟨?_, _, if_neg ?_, rfl⟩
        · rintro ⟨_, heq, hother⟩
          exact hrange (Option.some.inj heq ▸ hother)
        · simp
          omega

/-! ### Loading -/

/-- The outcome of readers in a row: settings that are all valid, or a complaint about the
first that is not. -/
def Checked (environment : Environment) (row : List Setting) (x : Except Failure α) : Prop :=
  (∀ setting ∈ row, ¬ Invalid environment setting) ∧ (∃ a, x = .ok a) ∨
    ∃ cause : Misconfiguration, x = .error (.misconfiguration cause) ∧
      FirstInvalid environment row cause.setting

theorem checked_ok (a : α) : Checked environment [] (.ok a : Except Failure α) :=
  Or.inl ⟨List.forall_mem_nil _, a, rfl⟩

/-- One reader after another. -/
theorem checked_bind {read : String → Except Failure α} {f : α → Except Failure β}
    {row : List Setting} {default : String} (hread : Reads setting read)
    (hdefault : Admits setting default) (hrest : ∀ a, Checked environment row (f a)) :
    Checked environment (setting :: row) (read (lookUp environment setting default) >>= f) := by
  have hinvalid : Invalid environment setting ↔
      ¬ Admits setting (lookUp environment setting default) := invalid_iff hdefault
  rcases hread (lookUp environment setting default) with ⟨hadmits, a, ha⟩ | ⟨hnot, cause, ha, rfl⟩
  · have hvalid : ¬ Invalid environment setting := fun h => hinvalid.1 h hadmits
    rw [ha]
    rcases hrest a with ⟨hall, hok⟩ | ⟨cause, herror, hfirst⟩
    · exact Or.inl ⟨List.forall_mem_cons.2 ⟨hvalid, hall⟩, hok⟩
    · exact Or.inr ⟨cause, herror, hfirst.cons hvalid⟩
  · rw [ha]
    exact Or.inr ⟨cause, rfl, firstInvalid_head (hinvalid.2 hnot)⟩

/-- **A load** succeeds if nothing is invalid, and complains about the first setting that
is. -/
theorem checked_ofEnvironment (environment : Environment) :
    Checked environment checked (ofEnvironment environment) := by
  unfold ofEnvironment
  refine checked_bind reads_threshold (by decide) fun _ => ?_
  refine checked_bind reads_angleName (by decide) fun _ => ?_
  refine checked_bind reads_truth (by decide) fun _ => ?_
  refine checked_bind (reads_port (Or.inl rfl)) (by decide) fun _ => ?_
  exact checked_bind (reads_port (Or.inr rfl)) (by decide) fun _ => checked_ok _

example : Admits .mcpPort " +8_030\n" ∧ ¬ Admits .mcpPort "65536" ∧ Admits .logJson " " := by
  decide

/-! ### What settings are like -/

theorem port_of_readPort {raw : String} {port : Nat} (h : readPort setting raw = .ok port) :
    1 ≤ port ∧ port ≤ 65535 := by
  unfold readPort at h
  split at h
  · cases h
  · split at h
    · next hrange =>
        obtain rfl := Except.ok.inj h
        simp only [Bool.and_eq_true, decide_eq_true_eq] at hrange
        omega
    · cases h

theorem eq_of_readAngleName {raw name : String} (h : readAngleName raw = .ok name) :
    name = lower (trim raw) := by
  simp only [readAngleName] at h
  split at h
  · exact (Except.ok.inj h).symm
  · cases h

end Settings

namespace AngleUnit

/-- Of a text only its lower case without outer blanks counts. -/
theorem ofText?_congr {text other : String} (h : lower (trim text) = lower (trim other)) :
    ofText? text = ofText? other := by
  unfold ofText?
  rw [h]

/-- **The name of the unit** is understood as the text that it was read from. -/
theorem ofText?_of_readAngleName {raw name : String} (h : Settings.readAngleName raw = .ok name) :
    ofText? name = ofText? raw := by
  have hplain : ∀ name ∈ Settings.angleNames, lower (trim name) = name := by decide
  refine ofText?_congr ?_
  rw [hplain name (Settings.mem_angleNames_of_readAngleName h)]
  exact Settings.eq_of_readAngleName h

end AngleUnit

namespace Settings

/-- Settings that were loaded make sense. -/
structure Sensible (environment : Environment) (settings : Settings) : Prop where
  mcpPort : 1 ≤ settings.mcpPort ∧ settings.mcpPort ≤ 65535
  webPort : 1 ≤ settings.webPort ∧ settings.webPort ≤ 65535
  logFile : settings.logFile ≠ some ""
  /-- The name of the unit is understood, as the variable is if it is set. -/
  angleUnit : ∃ unit, AngleUnit.ofValue (.text settings.angleName) = .ok unit ∧
    ∀ raw, environment Setting.angleUnit.variableName = some raw →
      AngleUnit.ofValue (.text raw) = .ok unit

theorem sensible_of_ofEnvironment (h : ofEnvironment environment = .ok settings) :
    Sensible environment settings := by
  obtain ⟨unit, hunit⟩ := AngleUnit.exists_ofText?_of_settings h
  unfold ofEnvironment at h
  obtain ⟨threshold, -, h⟩ := bind_eq_ok_iff.1 h
  obtain ⟨name, hname, h⟩ := bind_eq_ok_iff.1 h
  obtain ⟨logJson, -, h⟩ := bind_eq_ok_iff.1 h
  obtain ⟨mcpPort, hmcp, h⟩ := bind_eq_ok_iff.1 h
  obtain ⟨webPort, hweb, h⟩ := bind_eq_ok_iff.1 h
  cases h
  refine ⟨port_of_readPort hmcp, port_of_readPort hweb, ?_, unit, ?_, fun raw hraw => ?_⟩
  · show (if lookUp environment .logFile "" = "" then none else _) ≠ _
    split
    · exact nofun
    · next hfile => exact fun heq => hfile (Option.some.inj heq)
  · exact AngleUnit.ofValue_text_eq_ok_iff.2 hunit
  · have hlook : lookUp environment .angleUnit "deg" = raw := by rw [lookUp, hraw]; rfl
    rw [hlook] at hname
    rw [AngleUnit.ofValue_text_eq_ok_iff, ← AngleUnit.ofText?_of_readAngleName hname]
    exact hunit

/-! ### Where the unit is left to the settings -/

/-- A unit that is left to the settings is never refused. -/
theorem resolve_null_ne_refusal (cause : Refusal) :
    AngleUnit.resolve (ofEnvironment environment) .null ≠ .error (.refusal cause) := by
  intro h
  rcases AngleUnit.resolve_error_cases h with ⟨_, -, hcause⟩ | ⟨hnull, -⟩
  · cases hcause
  · exact hnull rfl

theorem start_ne_refusal (cause : Refusal) :
    Session.start (ofEnvironment environment) .null ≠ .error (.refusal cause) := by
  intro h
  rcases bind_eq_error_iff.1 h with hunit | ⟨unit, -, hok⟩
  · exact resolve_null_ne_refusal cause hunit
  · cases hok

theorem evaluate_ne_refusal (expression : Option String) (cause : Refusal) :
    ExpressionTools.evaluate (ofEnvironment environment) expression .null ≠
      .error (.refusal cause) := by
  intro h
  rcases bind_eq_error_iff.1 h with hunit | ⟨unit, -, hrest⟩
  · exact resolve_null_ne_refusal cause hunit
  rcases bind_eq_error_iff.1 hrest with htrace | ⟨trace, -, hok⟩
  · obtain ⟨fault, hfault, -⟩ := failsOnly_ofExpression expression unit _ htrace
    cases hfault
  · cases hok

/-- What the tool that evaluates refuses when no unit is given is for want of an
expression. -/
theorem unfit_of_refusal {fields : Fields Value} {cause : Refusal}
    (hunit : (fields.get? "angle_mode").getD .null = .null)
    (h : ExpressionTools.handle (ofEnvironment environment) "calc_evaluate" (.record fields) =
      .error (.refusal cause)) :
    ExpressionTools.Unfit (.record fields) (.refusal cause) := by
  cases ExpressionTools.raises_of_handle (by decide) h with
  | unfit hunfit => exact hunfit
  | unknownUnit hgiven hnull _ =>
      rw [hgiven] at hunit
      exact absurd hunit hnull

/-- **Settings from variables.**

* A load gives settings or complains of a misconfiguration, and does nothing else.
* It complains just if the variable of a setting is set to a text that is not admitted, and
  it tells the first such variable.
* Settings that it gives are sensible.
* So no session is refused its unit, nor an evaluation that leaves the unit to the
  settings; what is refused then has no expression to evaluate. -/
theorem ofEnvironment_outcomes (environment : Environment) :
    ((∃ settings, ofEnvironment environment = .ok settings) ∨
      ∃ cause, ofEnvironment environment = .error (.misconfiguration cause)) ∧
    ((∃ failure, ofEnvironment environment = .error failure) ↔
      ∃ setting ∈ checked, Invalid environment setting) ∧
    (∀ cause, ofEnvironment environment = .error (.misconfiguration cause) →
      ∃ setting, FirstInvalid environment checked setting ∧
        cause.details.get? "variable" = some (.text setting.variableName)) ∧
    (∀ settings, ofEnvironment environment = .ok settings → Sensible environment settings) ∧
    (∀ cause, Session.start (ofEnvironment environment) .null ≠ .error (.refusal cause)) ∧
    (∀ expression cause,
      ExpressionTools.evaluate (ofEnvironment environment) expression .null ≠
        .error (.refusal cause)) ∧
    ∀ (fields : Fields Value) cause, (fields.get? "angle_mode").getD .null = .null →
      ExpressionTools.handle (ofEnvironment environment) "calc_evaluate" (.record fields) =
          .error (.refusal cause) →
        ExpressionTools.Unfit (.record fields) (.refusal cause) := by
  refine ⟨?_, ⟨?_, ?_⟩, fun cause hcause => ?_, fun _ => sensible_of_ofEnvironment,
    start_ne_refusal, evaluate_ne_refusal, fun _ _ => unfit_of_refusal⟩
  all_goals
    rcases checked_ofEnvironment environment with ⟨hvalid, loaded, hok⟩ | ⟨first, herror, hfirst⟩
  · exact Or.inl ⟨loaded, hok⟩
  · exact Or.inr ⟨first, herror⟩
  · rintro ⟨failure, hfailure⟩
    cases hok.symm.trans hfailure
  · exact fun _ => ⟨first.setting, hfirst.mem, hfirst.invalid⟩
  · rintro ⟨setting, hmem, hinvalid⟩
    exact absurd hinvalid (hvalid setting hmem)
  · exact fun _ => ⟨_, herror⟩
  · cases hok.symm.trans hcause
  · obtain rfl := Failure.misconfiguration.inj (Except.error.inj (herror.symm.trans hcause))
    exact ⟨_, hfirst, rfl⟩

/-- Variables in an odd spelling, and one that is wrong. -/
def oddSpelling (level : String) : Environment
  | "CALCENGINE_LOG_LEVEL" => some level
  | "CALCENGINE_ANGLE_MODE" => some " Radians\n"
  | "CALCENGINE_MCP_PORT" => some "+8_0"
  | _ => none

/-- Odd spellings are read, and a level that is none is not. -/
theorem ofEnvironment_oddSpelling :
    Sensible (oddSpelling "warn") ⟨30, none, false, "radians", 80, 8032⟩ ∧
      ∃ failure, ofEnvironment (oddSpelling "loud") = .error failure := by
  obtain ⟨-, -, -, hsensible, -⟩ := ofEnvironment_outcomes (oddSpelling "warn")
  obtain ⟨-, hfails, -⟩ := ofEnvironment_outcomes (oddSpelling "loud")
  exact ⟨hsensible _ rfl, hfails.2 ⟨.logLevel, by decide, "loud", rfl, by decide⟩⟩

end Settings

end Calculator

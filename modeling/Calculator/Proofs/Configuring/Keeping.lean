import Calculator.Proofs.Serving.Units

/-!
# Settings kept for later

Settings are asked for again and again, while variables may change and what was loaded may
be forgotten.  They are loaded when nothing is kept or fresh ones are wanted (`Loads`), and
are kept if the load comes to any (`LoadsWell`).

What is kept at a position of a run can be told from the requests before it: it is what came
of the latest load that succeeded and has not been forgotten since (`Latest`,
`loaded_eq_some_iff`).  The induction goes from one position to the next, and a request does
one of three things there: it loads and keeps something new, it forgets, or it leaves what
is kept alone (`storeAt_succ_cases`).  A load that fails is of the third sort, and so cannot
be told from a request that does not load at all, but for its own answer.
-/

namespace Calculator

namespace SettingsStore

/-! ### Requests -/

inductive Request where
  | setVariable (name : String) (value : Option String)
  | forget
  | get (reload : Bool)
  /-- A new session whose unit is left to the settings. -/
  | startSession

inductive Answer where
  | nothing
  | settings (settings : Settings)
  | session (session : Session)

/-- The answer to a request, and the store after it. -/
def answer (store : SettingsStore) : Request → Except Failure Answer × SettingsStore
  | .setVariable name value => (.ok .nothing, store.setVariable name value)
  | .forget => (.ok .nothing, store.forget)
  | .get reload =>
    let (settings, store) := store.get reload
    (settings.map .settings, store)
  | .startSession =>
    let (settings, store) := store.get false
    ((Session.start settings .null).map .session, store)

/-- Whether a request asks for settings, and if so whether it wants fresh ones. -/
def Request.reload? : Request → Option Bool
  | .get reload => some reload
  | .startSession => some false
  | .setVariable .. | .forget => none

/-- What a request makes of the variables. -/
def Request.changed (environment : Environment) : Request → Environment
  | .setVariable name value => fun other => if other = name then value else environment other
  | .forget | .get _ | .startSession => environment

/-- The variables in front of a position of a run, as earlier requests have set them. -/
def environmentAt (environment : Environment) (requests : List Request) (position : Nat) :
    Environment :=
  (requests.take position).foldl Request.changed environment

/-- The store in front of a position of a run that begins with nothing kept. -/
def storeAt (environment : Environment) (requests : List Request) (position : Nat) :
    SettingsStore :=
  (requests.take position).foldl (fun store request => (store.answer request).2) { environment }

variable {environment : Environment} {requests : List Request} {request : Request}
  {position load : Nat} {store : SettingsStore} {settings : Settings} {failure : Failure}

/-- The request at a position asks for settings, and nothing is kept or fresh ones are
wanted. -/
def Loads (environment : Environment) (requests : List Request) (position : Nat) : Prop :=
  ∃ request reload, requests[position]? = some request ∧ request.reload? = some reload ∧
    ((storeAt environment requests position).loaded = none ∨ reload = true)

/-- The request at a position loads the settings that the variables give by then. -/
def LoadsWell (environment : Environment) (requests : List Request) (position : Nat)
    (settings : Settings) : Prop :=
  Loads environment requests position ∧
    Settings.ofEnvironment (environmentAt environment requests position) = .ok settings

/-- In front of a position, the latest load that succeeded and was not forgotten. -/
structure Latest (environment : Environment) (requests : List Request) (position load : Nat)
    (settings : Settings) : Prop where
  before : load < position
  loads : LoadsWell environment requests load settings
  since : ∀ later, load < later → later < position →
    requests[later]? ≠ some .forget ∧ ∀ other, ¬ LoadsWell environment requests later other

/-! ### One request -/

theorem get_of_kept {reload : Bool} (h : store.loaded = some settings) (hreload : reload = false) :
    store.get reload = (.ok settings, store) := by
  subst hreload
  unfold get
  rw [h]

theorem get_of_load {reload : Bool} (h : store.loaded = none ∨ reload = true) :
    store.get reload = match Settings.ofEnvironment store.environment with
      | .ok settings => (.ok settings, { store with loaded := some settings })
      | .error failure => (.error failure, store) := by
  unfold get
  cases hloaded : store.loaded with
  | none => cases reload <;> rfl
  | some settings =>
      obtain rfl : reload = true := h.resolve_left fun hnone => by
        rw [hloaded] at hnone
        cases hnone
      rfl

theorem answer_get_fst (store : SettingsStore) (reload : Bool) :
    (store.answer (.get reload)).1 = (store.get reload).1.map .settings := rfl

theorem answer_startSession_fst (store : SettingsStore) :
    (store.answer .startSession).1 =
      (Session.start (store.get false).1 .null).map .session := rfl

/-- A request that asks for settings leaves the store as getting them does. -/
theorem answer_snd_of_reload? {reload : Bool} (h : request.reload? = some reload) :
    (store.answer request).2 = (store.get reload).2 := by
  cases request with
  | get | startSession =>
      obtain rfl := Option.some.inj h
      rfl
  | setVariable | forget => cases h

theorem environment_answer (store : SettingsStore) (request : Request) :
    (store.answer request).2.environment = request.changed store.environment := by
  have hget : ∀ reload, (store.get reload).2.environment = store.environment := by
    intro reload
    unfold get
    split
    · rfl
    · split <;> rfl
  cases request with
  | setVariable | forget => rfl
  | get reload => exact hget reload
  | startSession => exact hget false

/-! ### From one position to the next -/

theorem storeAt_succ (h : requests[position]? = some request) :
    storeAt environment requests (position + 1) =
      ((storeAt environment requests position).answer request).2 := by
  unfold storeAt
  rw [List.take_add_one, h, Option.toList_some, List.foldl_append]
  rfl

theorem environmentAt_succ (h : requests[position]? = some request) :
    environmentAt environment requests (position + 1) =
      request.changed (environmentAt environment requests position) := by
  unfold environmentAt
  rw [List.take_add_one, h, Option.toList_some, List.foldl_append]
  rfl

/-- The store has the variables as they were set. -/
theorem environment_storeAt (environment : Environment) (requests : List Request)
    (position : Nat) :
    (storeAt environment requests position).environment =
      environmentAt environment requests position := by
  induction position with
  | zero => rfl
  | succ position ih =>
      cases hrequest : requests[position]? with
      | none =>
          unfold storeAt environmentAt at ih ⊢
          rw [List.take_add_one, hrequest, Option.toList_none, List.append_nil, ih]
      | some request =>
          rw [storeAt_succ hrequest, environmentAt_succ hrequest, environment_answer, ih]

theorem loads_iff {reload : Bool} (hrequest : requests[position]? = some request)
    (hreload : request.reload? = some reload) :
    Loads environment requests position ↔
      (storeAt environment requests position).loaded = none ∨ reload = true := by
  constructor
  · rintro ⟨other, otherReload, hother, hotherReload, hload⟩
    obtain rfl := Option.some.inj (hrequest.symm.trans hother)
    obtain rfl := Option.some.inj (hreload.symm.trans hotherReload)
    exact hload
  · exact fun hload => ⟨request, reload, hrequest, hreload, hload⟩

/-- Settings that are asked for and not loaded are those kept. -/
theorem exists_kept_of_not_loads {reload : Bool} (hrequest : requests[position]? = some request)
    (hreload : request.reload? = some reload) (h : ¬ Loads environment requests position) :
    ∃ settings, (storeAt environment requests position).loaded = some settings ∧
      reload = false := by
  have hkept := mt (loads_iff hrequest hreload).2 h
  rw [not_or, Bool.not_eq_true] at hkept
  obtain ⟨settings, hsettings⟩ := Option.ne_none_iff_exists'.1 hkept.1
  exact ⟨settings, hsettings, hkept.2⟩

theorem not_loads_of_reload? (hrequest : requests[position]? = some request)
    (hreload : request.reload? = none) : ¬ Loads environment requests position := by
  rintro ⟨other, otherReload, hother, hotherReload, -⟩
  obtain rfl := Option.some.inj (hrequest.symm.trans hother)
  cases hreload.symm.trans hotherReload

theorem LoadsWell.not_forget (h : LoadsWell environment requests position settings) :
    requests[position]? ≠ some .forget :=
  fun hforget => not_loads_of_reload? hforget rfl h.1

theorem LoadsWell.unique {other : Settings} (h : LoadsWell environment requests position settings)
    (hother : LoadsWell environment requests position other) : settings = other :=
  Except.ok.inj (h.2.symm.trans hother.2)

/-- What a request that loads leaves behind. -/
theorem storeAt_succ_of_loads (h : Loads environment requests position) :
    storeAt environment requests (position + 1) =
      match Settings.ofEnvironment (environmentAt environment requests position) with
      | .ok settings =>
        { storeAt environment requests position with loaded := some settings }
      | .error _ => storeAt environment requests position := by
  obtain ⟨request, reload, hrequest, hreload, hload⟩ := h
  rw [storeAt_succ hrequest, answer_snd_of_reload? hreload, get_of_load hload,
    ← environment_storeAt]
  cases Settings.ofEnvironment (storeAt environment requests position).environment <;> rfl

/-- **One request** keeps something new, forgets, or leaves what is kept alone. -/
theorem storeAt_succ_cases (environment : Environment) (requests : List Request)
    (position : Nat) :
    (∃ settings, LoadsWell environment requests position settings ∧
      (storeAt environment requests (position + 1)).loaded = some settings) ∨
    (requests[position]? = some .forget ∧
      (storeAt environment requests (position + 1)).loaded = none) ∨
    requests[position]? ≠ some .forget ∧
      (∀ settings, ¬ LoadsWell environment requests position settings) ∧
      (storeAt environment requests (position + 1)).loaded =
        (storeAt environment requests position).loaded := by
  by_cases hloads : Loads environment requests position
  · have hnext := storeAt_succ_of_loads hloads
    cases hcurrent : Settings.ofEnvironment (environmentAt environment requests position) with
    | ok settings =>
        rw [hcurrent] at hnext
        exact Or.inl ⟨settings, ⟨hloads, hcurrent⟩, by rw [hnext]⟩
    | error failure =>
        rw [hcurrent] at hnext
        refine Or.inr (Or.inr ⟨?_, fun settings hwell => ?_, by rw [hnext]⟩)
        · exact fun hforget => not_loads_of_reload? hforget rfl hloads
        · cases hcurrent.symm.trans hwell.2
  -- Without a load nothing new is kept, and only a request to forget changes what is.
  have hnew : ∀ settings, ¬ LoadsWell environment requests position settings :=
    fun _ hwell => hloads hwell.1
  cases hrequest : requests[position]? with
  | none =>
      refine Or.inr (Or.inr ⟨nofun, hnew, ?_⟩)
      unfold storeAt
      rw [List.take_add_one, hrequest, Option.toList_none, List.append_nil]
  | some request =>
      rw [storeAt_succ hrequest]
      cases request with
      | setVariable name value => exact Or.inr (Or.inr ⟨nofun, hnew, rfl⟩)
      | forget => exact Or.inr (Or.inl ⟨rfl, rfl⟩)
      | get | startSession =>
          obtain ⟨settings, hkept, hreload⟩ := exists_kept_of_not_loads hrequest rfl hloads
          refine Or.inr (Or.inr ⟨nofun, hnew, ?_⟩)
          rw [answer_snd_of_reload? rfl, get_of_kept hkept hreload]

/-! ### Along a run -/

/-- The latest load in front of the next position is the one made here, if it goes well, or
else the one from before, if nothing is forgotten here. -/
theorem latest_succ_iff :
    Latest environment requests (position + 1) load settings ↔
      load = position ∧ LoadsWell environment requests position settings ∨
      Latest environment requests position load settings ∧
        requests[position]? ≠ some .forget ∧
        ∀ other, ¬ LoadsWell environment requests position other := by
  constructor
  · rintro ⟨hbefore, hloads, hsince⟩
    rcases Nat.lt_succ_iff_lt_or_eq.1 hbefore with hlt | rfl
    · exact Or.inr ⟨⟨hlt, hloads, fun later hlater hbound =>
        hsince later hlater (Nat.lt_succ_of_lt hbound)⟩, hsince position hlt (Nat.lt_succ_self _)⟩
    · exact Or.inl ⟨rfl, hloads⟩
  · rintro (⟨rfl, hloads⟩ | ⟨⟨hbefore, hloads, hsince⟩, hhere⟩)
    · exact ⟨Nat.lt_succ_self _, hloads, fun later hlater hbound => by omega⟩
    · refine ⟨Nat.lt_succ_of_lt hbefore, hloads, fun later hlater hbound => ?_⟩
      rcases Nat.lt_succ_iff_lt_or_eq.1 hbound with hlt | rfl
      · exact hsince later hlater hlt
      · exact hhere

/-- **What is kept** is what came of the latest load. -/
theorem loaded_eq_some_iff :
    (storeAt environment requests position).loaded = some settings ↔
      ∃ load, Latest environment requests position load settings := by
  induction position with
  | zero => exact ⟨nofun, fun ⟨_, hlatest⟩ => absurd hlatest.before (Nat.not_lt_zero _)⟩
  | succ position ih =>
      simp only [latest_succ_iff]
      -- a load here is the latest from now on, and otherwise the latest is as it was or gone
      rcases storeAt_succ_cases environment requests position with
        ⟨found, hwell, hloaded⟩ | ⟨hforget, hloaded⟩ | ⟨hforget, hwell, hloaded⟩
      · rw [hloaded]
        constructor
        · exact fun heq => ⟨position, Or.inl ⟨rfl, Option.some.inj heq ▸ hwell⟩⟩
        · rintro ⟨load, ⟨-, hother⟩ | ⟨-, -, hnone⟩⟩
          · exact congrArg some (hwell.unique hother)
          · exact absurd hwell (hnone found)
      · rw [hloaded]
        refine ⟨nofun, ?_⟩
        rintro ⟨load, ⟨-, hother⟩ | ⟨-, hnot, -⟩⟩
        · exact absurd hforget hother.not_forget
        · exact absurd hforget hnot
      · rw [hloaded, ih]
        constructor
        · exact fun ⟨load, hlatest⟩ => ⟨load, Or.inr ⟨hlatest, hforget, hwell⟩⟩
        · rintro ⟨load, ⟨-, hother⟩ | ⟨hlatest, -, -⟩⟩
          · exact absurd hother (hwell settings)
          · exact ⟨load, hlatest⟩

/-! ### Settings given along a run -/

/-- Settings are given by a load if one is made, and otherwise they are those of the latest
load before. -/
theorem get_fst_cases {reload : Bool} (hrequest : requests[position]? = some request)
    (hreload : request.reload? = some reload) :
    (Loads environment requests position ∧
      ((storeAt environment requests position).get reload).1 =
        Settings.ofEnvironment (environmentAt environment requests position)) ∨
    ¬ Loads environment requests position ∧
      ∃ settings load, ((storeAt environment requests position).get reload).1 = .ok settings ∧
        Latest environment requests position load settings := by
  by_cases hloads : Loads environment requests position
  · refine Or.inl ⟨hloads, ?_⟩
    rw [get_of_load ((loads_iff hrequest hreload).1 hloads), environment_storeAt]
    cases Settings.ofEnvironment (environmentAt environment requests position) <;> rfl
  · obtain ⟨settings, hkept, hold⟩ := exists_kept_of_not_loads hrequest hreload hloads
    obtain ⟨load, hlatest⟩ := loaded_eq_some_iff.1 hkept
    exact Or.inr ⟨hloads, settings, load, by rw [get_of_kept hkept hold], hlatest⟩

/-- **Settings that are given** came of the latest load, which may be the one just made. -/
theorem exists_latest_of_get {reload : Bool} (hrequest : requests[position]? = some request)
    (hreload : request.reload? = some reload)
    (h : ((storeAt environment requests position).get reload).1 = .ok settings) :
    ∃ load, Latest environment requests (position + 1) load settings := by
  rcases get_fst_cases hrequest hreload with ⟨hloads, hget⟩ | ⟨hloads, kept, load, hget, hlatest⟩
  · exact ⟨position, latest_succ_iff.2 (Or.inl ⟨rfl, hloads, hget.symm.trans h⟩)⟩
  · obtain rfl := Except.ok.inj (hget.symm.trans h)
    refine ⟨load, latest_succ_iff.2 (Or.inr ⟨hlatest, fun hforget => ?_, fun other hwell => ?_⟩)⟩
    · obtain rfl := Option.some.inj (hrequest.symm.trans hforget)
      cases hreload
    · exact hloads hwell.1

/-- Getting settings fails only if they are loaded and the load fails. -/
theorem get_fst_eq_error {reload : Bool} (hrequest : requests[position]? = some request)
    (hreload : request.reload? = some reload)
    (h : ((storeAt environment requests position).get reload).1 = .error failure) :
    Loads environment requests position ∧
      Settings.ofEnvironment (environmentAt environment requests position) = .error failure := by
  rcases get_fst_cases hrequest hreload with ⟨hloads, hget⟩ | ⟨-, kept, load, hget, -⟩
  · exact ⟨hloads, hget.symm.trans h⟩
  · cases hget.symm.trans h

/-! ### Answers along a run -/

theorem answer_get_of_loads {reload : Bool} (hrequest : requests[position]? = some (.get reload))
    (h : Loads environment requests position) :
    ((storeAt environment requests position).answer (.get reload)).1 =
      (Settings.ofEnvironment (environmentAt environment requests position)).map .settings := by
  rcases get_fst_cases hrequest rfl with ⟨-, hget⟩ | ⟨hnot, -⟩
  · rw [answer_get_fst, hget]
  · exact absurd h hnot

theorem exists_answer_get_of_not_loads {reload : Bool}
    (hrequest : requests[position]? = some (.get reload))
    (h : ¬ Loads environment requests position) :
    ∃ settings load, ((storeAt environment requests position).answer (.get reload)).1 =
        .ok (.settings settings) ∧ Latest environment requests position load settings := by
  rcases get_fst_cases hrequest rfl with ⟨hloads, -⟩ | ⟨-, settings, load, hget, hlatest⟩
  · exact absurd hloads h
  · exact ⟨settings, load, map_eq_ok_iff.2 ⟨settings, hget, rfl⟩, hlatest⟩

theorem exists_latest_of_answer_get {reload : Bool}
    (hrequest : requests[position]? = some (.get reload))
    (h : ((storeAt environment requests position).answer (.get reload)).1 =
      .ok (.settings settings)) :
    ∃ load, Latest environment requests (position + 1) load settings := by
  obtain ⟨found, hget, hfound⟩ := map_eq_ok_iff.1 h
  obtain rfl := Answer.settings.inj hfound
  exact exists_latest_of_get hrequest rfl hget

/-- A session that leaves its unit to settings there are starts under theirs. -/
theorem start_of_latest (h : Latest environment requests position load settings) :
    ∃ unit, AngleUnit.ofValue (.text settings.angleName) = .ok unit ∧
      Session.start (.ok settings) .null = .ok { unit } := by
  obtain ⟨unit, hunit⟩ := AngleUnit.exists_ofText?_of_settings h.loads.2
  have hresolve : AngleUnit.resolve (.ok settings) UnitField.empty.value = .ok unit := by
    rw [← h.loads.2]
    exact AngleUnit.resolve_eq_ok_iff.2 (Or.inr ⟨rfl, settings, h.loads.2, hunit⟩)
  refine ⟨unit, AngleUnit.ofValue_text_eq_ok_iff.2 hunit, ?_⟩
  show Session.start (.ok settings) UnitField.empty.value = _
  unfold Session.start
  rw [hresolve]
  rfl

theorem exists_answer_startSession (hrequest : requests[position]? = some .startSession)
    (h : ((storeAt environment requests position).get false).1 = .ok settings) :
    ∃ unit, AngleUnit.ofValue (.text settings.angleName) = .ok unit ∧
      ((storeAt environment requests position).answer .startSession).1 =
        .ok (.session { unit }) := by
  obtain ⟨load, hlatest⟩ := exists_latest_of_get hrequest rfl h
  obtain ⟨unit, hunit, hstart⟩ := start_of_latest hlatest
  refine ⟨unit, hunit, ?_⟩
  rw [answer_startSession_fst, h, hstart]
  rfl

/-- A session does not start just if there are no settings. -/
theorem answer_startSession_eq_error (hrequest : requests[position]? = some .startSession) :
    ((storeAt environment requests position).answer .startSession).1 = .error failure ↔
      ((storeAt environment requests position).get false).1 = .error failure := by
  cases hget : ((storeAt environment requests position).get false).1 with
  | error other =>
      have hstart : Session.start (.error other) .null = .error other := rfl
      rw [answer_startSession_fst, map_eq_error_iff, hget, hstart, Except.error.injEq,
        Except.error.injEq]
  | ok settings =>
      obtain ⟨unit, -, hanswer⟩ := exists_answer_startSession hrequest hget
      rw [hanswer]
      exact ⟨nofun, nofun⟩

/-- A request fails for want of settings only. -/
theorem answer_fst_eq_error (hrequest : requests[position]? = some request)
    (h : ((storeAt environment requests position).answer request).1 = .error failure) :
    Loads environment requests position ∧
      Settings.ofEnvironment (environmentAt environment requests position) = .error failure := by
  cases request with
  | setVariable | forget => cases h
  | get reload =>
      rw [answer_get_fst, map_eq_error_iff] at h
      exact get_fst_eq_error hrequest rfl h
  | startSession =>
      exact get_fst_eq_error hrequest rfl ((answer_startSession_eq_error hrequest).1 h)

/-- **Settings kept over a run** that begins with nothing kept.  At any position:

* what is kept is what came of the latest load that succeeded and was not forgotten since;
* a request for settings loads them just if nothing is kept or fresh ones are wanted, and
  is answered by the load then, and by what is kept otherwise;
* settings that are given are those of the latest load, this one included;
* a request that fails does so because it loads and the load fails, and it changes nothing;
* a session starts under the unit of the settings that would be given, and fails as getting
  them does. -/
theorem kept_through_run (environment : Environment) (requests : List Request)
    (position : Nat) :
    let store := storeAt environment requests position
    let current := Settings.ofEnvironment (environmentAt environment requests position)
    (∀ settings, store.loaded = some settings ↔
      ∃ load, Latest environment requests position load settings) ∧
    (∀ reload, requests[position]? = some (.get reload) →
      (store.loaded = none ∨ reload = true →
        (store.answer (.get reload)).1 = current.map .settings) ∧
      (¬ (store.loaded = none ∨ reload = true) →
        ∃ settings load, (store.answer (.get reload)).1 = .ok (.settings settings) ∧
          Latest environment requests position load settings) ∧
      ∀ settings, (store.answer (.get reload)).1 = .ok (.settings settings) →
        ∃ load, Latest environment requests (position + 1) load settings) ∧
    (∀ request failure, requests[position]? = some request →
      (store.answer request).1 = .error failure →
        Loads environment requests position ∧ current = .error failure ∧
        storeAt environment requests (position + 1) = store) ∧
    (requests[position]? = some .startSession →
      (∀ settings, (store.get false).1 = .ok settings →
        ∃ unit, AngleUnit.ofValue (.text settings.angleName) = .ok unit ∧
          (store.answer .startSession).1 = .ok (.session { unit })) ∧
      ∀ failure, (store.answer .startSession).1 = .error failure ↔
        (store.get false).1 = .error failure) := by
  intro store current
  refine ⟨fun _ => loaded_eq_some_iff, fun reload hrequest => ?_,
    fun request failure hrequest herror => ?_, fun hrequest =>
      ⟨fun _ => exists_answer_startSession hrequest,
        fun _ => answer_startSession_eq_error hrequest⟩⟩
  · rw [← loads_iff hrequest rfl]
    exact ⟨answer_get_of_loads hrequest, exists_answer_get_of_not_loads hrequest,
      fun _ => exists_latest_of_answer_get hrequest⟩
  · obtain ⟨hloads, hcurrent⟩ := answer_fst_eq_error hrequest herror
    refine ⟨hloads, hcurrent, ?_⟩
    rw [storeAt_succ_of_loads hloads, hcurrent]

/-- A run in which fresh settings are wanted while no unit has the name that is set. -/
def misnamedUnit : List Request :=
  [.setVariable "CALCENGINE_ANGLE_MODE" (some "rad"), .get false,
    .setVariable "CALCENGINE_ANGLE_MODE" (some "grad"), .get true, .startSession]

/-- The load that fails leaves the settings to the session that starts next. -/
theorem session_after_misnamed_unit :
    storeAt (fun _ => none) misnamedUnit 4 = storeAt (fun _ => none) misnamedUnit 3 ∧
      ((storeAt (fun _ => none) misnamedUnit 4).answer .startSession).1 =
        .ok (.session { unit := .radians }) := by
  have hgrad : Settings.ofEnvironment (environmentAt (fun _ => none) misnamedUnit 3) =
      .error (.misconfiguration (.unknownAngleUnit "grad")) := by
    rfl
  obtain ⟨-, hgets, hfails, -⟩ := kept_through_run (fun _ => none) misnamedUnit 3
  have hanswer := (hgets true rfl).1 (Or.inr rfl)
  rw [hgrad] at hanswer
  refine ⟨(hfails _ _ rfl hanswer).2.2, ?_⟩
  obtain ⟨-, -, -, hstarts⟩ := kept_through_run (fun _ => none) misnamedUnit 4
  obtain ⟨unit, hunit, hsession⟩ := (hstarts rfl).1 ⟨20, none, false, "rad", 8030, 8032⟩ rfl
  obtain rfl : AngleUnit.radians = unit := Except.ok.inj hunit
  exact hsession

end SettingsStore

end Calculator

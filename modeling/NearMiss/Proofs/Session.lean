import NearMiss.Settings.Session
import Mathlib.Data.List.Basic
import Mathlib.Data.List.Induction

/-!
# Settings over a whole session

Whatever is done in a session, and in whatever order, the settings that it hands out are those of
the latest reading that succeeded, unless a reload has been asked for since. What is kept can
therefore be told from the acts of the session alone: it is the reading that some act built, with no
reload behind that act.
-/

namespace NearMiss.Settings

/-- What is done in a session. -/
inductive Act where
  /-- A variable of the environment gets a value. -/
  | set (name value : String)
  /-- A variable of the environment is removed. -/
  | unset (name : String)
  /-- The variable file gets another content, or is taken away. -/
  | file (content : Option (List UInt8))
  /-- Settings are asked for. -/
  | get
  /-- A reload is asked for. -/
  | reload
  deriving DecidableEq, Repr

/-- The act changes the surroundings and asks for nothing. -/
def Act.IsChange (act : Act) : Prop :=
  act ≠ .get ∧ act ≠ .reload

instance (act : Act) : Decidable act.IsChange :=
  inferInstanceAs (Decidable (_ ∧ _))

/-- The surroundings after an act. -/
def Surroundings.after (around : Surroundings) : Act → Surroundings
  | .set name value => { around with environment := assign name value around.environment }
  | .unset name => { around with environment := around.environment.filter (·.1 != name) }
  | .file content => { around with file := content }
  | .get => around
  | .reload => around

/-- The surroundings after acts. -/
def Surroundings.afterAll (around : Surroundings) (acts : List Act) : Surroundings :=
  acts.foldl after around

namespace Session

/-- The session after an act. -/
def after (session : Session) : Act → Session
  | .set name value => session.setVariable name value
  | .unset name => session.unsetVariable name
  | .file content => session.setFile content
  | .get => session.get.2
  | .reload => session.reload.2

/-- What an act is answered; one that asks for nothing has no answer. -/
def answer? (session : Session) : Act → Option (Except Failure Reading)
  | .get => some session.get.1
  | .reload => some session.reload.1
  | _ => none

/-- The session that begins in the given surroundings with nothing kept, after acts. -/
def run (start : Surroundings) (acts : List Act) : Session :=
  acts.foldl after { toSurroundings := start }

/-- The act is answered with settings that it has read anew. -/
def Builds (session : Session) (act : Act) (reading : Reading) : Prop :=
  session.answer? act = some (.ok reading) ∧ (session.after act).readings = session.readings + 1

/-- Of the given acts, the one behind those `before` has built the reading, and no reload has been
asked for since. -/
def BuiltBehind (start : Surroundings) (before acts : List Act) (reading : Reading) : Prop :=
  ∃ act between, acts = before ++ act :: between ∧ .reload ∉ between ∧
    (run start before).Builds act reading

/-! ## Single acts -/

variable {session : Session} {act : Act} {reading : Reading} {start : Surroundings}

/-- Settings that are read get the number of the readings before them, and they are kept. -/
theorem read_of_ok {settings : Settings} (h : session.settings = .ok settings) :
    session.read = (.ok ⟨session.readings, settings⟩,
      { session with kept := some ⟨session.readings, settings⟩
                     readings := session.readings + 1 }) := by
  rw [read, h]

/-- Settings that cannot be had are not read. -/
theorem read_of_error {failure : Failure} (h : session.settings = .error failure) :
    session.read = (.error failure, session) := by
  rw [read, h]

/-- A reading has the settings that hold and the number of readings before it. -/
theorem answer_read (session : Session) :
    session.read.1 = session.settings.map (Reading.mk session.readings) := by
  cases h : session.settings with
  | error failure => rw [read_of_error h]; rfl
  | ok settings => rw [read_of_ok h]; rfl

/-- What is kept is given again. -/
theorem get_of_kept (h : session.kept = some reading) : session.get = (.ok reading, session) := by
  rw [get, h]

/-- Without anything kept the settings are read. -/
theorem get_of_none (h : session.kept = none) : session.get = session.read := by
  rw [get, h]

/-- Reading changes nothing in the surroundings. -/
theorem toSurroundings_read (session : Session) :
    session.read.2.toSurroundings = session.toSurroundings := by
  cases h : session.settings with
  | error failure => rw [read_of_error h]
  | ok settings => rw [read_of_ok h]

/-- Calls leave the surroundings alone. -/
theorem toSurroundings_after (session : Session) (act : Act) :
    (session.after act).toSurroundings = session.toSurroundings.after act := by
  cases act with
  | set name value => rfl
  | unset name => rfl
  | file content => rfl
  | get =>
    change session.get.2.toSurroundings = session.toSurroundings
    cases hkept : session.kept with
    | none => rw [get_of_none hkept, toSurroundings_read]
    | some reading => rw [get_of_kept hkept]
  | reload => exact toSurroundings_read { session with kept := none }

/-- What an act can do: it asks for nothing and is only a change, it is answered with what is kept,
or it reads the settings anew. The last is done by every reload, and by asking for settings when
none are kept; if it fails, nothing is kept behind it. -/
inductive Step (session : Session) (act : Act) : Prop
  /-- The surroundings change. -/
  | change (hact : act.IsChange) (hanswer : session.answer? act = none)
    (hkept : (session.after act).kept = session.kept)
    (hreadings : (session.after act).readings = session.readings)
  /-- What is kept is handed out. -/
  | serve (reading : Reading) (hact : act = .get) (hkept : session.kept = some reading)
    (hanswer : session.answer? act = some (.ok reading)) (hafter : session.after act = session)
  /-- Settings are read. -/
  | build (settings : Settings) (hact : act = .reload ∨ act = .get ∧ session.kept = none)
    (hsettings : session.settings = .ok settings)
    (hanswer : session.answer? act = some (.ok ⟨session.readings, settings⟩))
    (hkept : (session.after act).kept = some ⟨session.readings, settings⟩)
    (hreadings : (session.after act).readings = session.readings + 1)
  /-- Settings cannot be read. -/
  | fail (failure : Failure) (hact : act = .reload ∨ act = .get ∧ session.kept = none)
    (hsettings : session.settings = .error failure)
    (hanswer : session.answer? act = some (.error failure))
    (hkept : (session.after act).kept = none)
    (hreadings : (session.after act).readings = session.readings)

/-- A call that leads to a reading, by the session itself or by what it is without what it keeps. -/
theorem step_of_read (reader : Session) (hact : act = .reload ∨ act = .get ∧ session.kept = none)
    (hsettings : reader.settings = session.settings)
    (hreadings : reader.readings = session.readings) (hkept : reader.kept = none)
    (hanswer : session.answer? act = some reader.read.1)
    (hafter : session.after act = reader.read.2) : session.Step act := by
  cases h : reader.settings with
  | error failure =>
    rw [read_of_error h] at hanswer hafter
    exact .fail failure hact (hsettings ▸ h) hanswer (hafter ▸ hkept) (hafter ▸ hreadings)
  | ok settings =>
    rw [read_of_ok h, hreadings] at hanswer hafter
    exact .build settings hact (hsettings ▸ h) hanswer (hafter ▸ rfl) (hafter ▸ rfl)

/-- What every act does to a session. -/
theorem step (session : Session) (act : Act) : session.Step act := by
  cases act with
  | set name value => exact .change ⟨nofun, nofun⟩ rfl rfl rfl
  | unset name => exact .change ⟨nofun, nofun⟩ rfl rfl rfl
  | file content => exact .change ⟨nofun, nofun⟩ rfl rfl rfl
  | get =>
    cases hkept : session.kept with
    | none =>
      refine step_of_read session (.inr ⟨rfl, hkept⟩) rfl rfl hkept ?_ ?_
      · rw [answer?, get_of_none hkept]
      · rw [after, get_of_none hkept]
    | some reading =>
      refine .serve reading rfl hkept ?_ ?_
      · rw [answer?, get_of_kept hkept]
      · rw [after, get_of_kept hkept]
  | reload =>
    exact step_of_read { session with kept := none } (.inl rfl) rfl rfl rfl rfl rfl

/-- An act builds a reading of the surroundings as they are, with a number that no reading had
before. It is kept behind the act. -/
theorem Builds.spec (h : session.Builds act reading) :
    session.settings = .ok reading.settings ∧ (session.after act).kept = some reading := by
  obtain ⟨hanswered, hcounted⟩ := h
  cases session.step act with
  | change hact hanswer hkept hreadings => simp [hanswer] at hanswered
  | serve other hact hkept hanswer hafter => simp [hafter] at hcounted
  | build settings hact hsettings hanswer hkept hreadings =>
    obtain rfl : ⟨session.readings, settings⟩ = reading := by simpa [hanswer] using hanswered
    exact ⟨hsettings, hkept⟩
  | fail failure hact hsettings hanswer hkept hreadings => simp [hanswer] at hanswered

/-- A reading that fails keeps nothing and is not counted. -/
theorem after_of_failure {failure : Failure}
    (hanswered : session.answer? act = some (.error failure)) :
    (session.after act).kept = none ∧ (session.after act).readings = session.readings ∧
      ∀ around : Surroundings, around.after act = around := by
  cases session.step act with
  | change hact hanswer hkept hreadings => simp [hanswer] at hanswered
  | serve other hact hkept hanswer hafter => simp [hanswer] at hanswered
  | build settings hact hsettings hanswer hkept hreadings => simp [hanswer] at hanswered
  | fail failure hact hsettings hanswer hkept hreadings =>
    refine ⟨hkept, hreadings, fun around => ?_⟩
    rcases hact with rfl | ⟨rfl, -⟩
    · rfl
    · rfl

/-! ## Whole sessions -/

/-- The last act comes after all others. -/
theorem run_concat (start : Surroundings) (acts : List Act) (act : Act) :
    run start (acts ++ [act]) = (run start acts).after act :=
  List.foldl_concat _ _ _ _

/-- A session has the surroundings that its acts leave behind. -/
theorem toSurroundings_run (start : Surroundings) (acts : List Act) :
    (run start acts).toSurroundings = start.afterAll acts := by
  induction acts using List.reverseRecOn with
  | nil => rfl
  | append_singleton acts act ih =>
    rw [run_concat, toSurroundings_after, ih, Surroundings.afterAll, Surroundings.afterAll,
      List.foldl_concat]

/-- The last act has built the reading itself, or it is no reload and the reading was built
before. -/
theorem exists_builtBehind_concat_iff {acts : List Act} :
    (∃ before, BuiltBehind start before (acts ++ [act]) reading) ↔
      (run start acts).Builds act reading ∨
        act ≠ .reload ∧ ∃ before, BuiltBehind start before acts reading := by
  constructor
  · rintro ⟨before, call, between, hacts, hreload, hbuilds⟩
    rcases List.eq_nil_or_concat' between with rfl | ⟨between, last, rfl⟩
    · obtain ⟨rfl, hsingle⟩ := List.append_inj' hacts rfl
      obtain rfl := List.singleton_inj.mp hsingle
      exact .inl hbuilds
    · rw [← List.cons_append, ← List.append_assoc] at hacts
      obtain ⟨rfl, hsingle⟩ := List.append_inj' hacts rfl
      obtain rfl := List.singleton_inj.mp hsingle
      simp only [List.mem_append, List.mem_singleton, not_or] at hreload
      exact .inr ⟨Ne.symm hreload.2, before, call, between, rfl, hreload.1, hbuilds⟩
  · rintro (hbuilds | ⟨hact, before, call, between, rfl, hreload, hbuilds⟩)
    · exact ⟨acts, act, [], rfl, List.not_mem_nil, hbuilds⟩
    · refine ⟨before, call, between ++ [act], by simp, ?_, hbuilds⟩
      simpa [hreload] using Ne.symm hact

/-- A reading is kept if some act has built it and no reload has been asked for since. -/
theorem kept_run_iff {acts : List Act} :
    (run start acts).kept = some reading ↔ ∃ before, BuiltBehind start before acts reading := by
  induction acts using List.reverseRecOn generalizing reading with
  | nil => simp [run, BuiltBehind]
  | append_singleton acts act ih =>
    rw [run_concat, exists_builtBehind_concat_iff, ← ih]
    constructor
    · intro hkept
      cases (run start acts).step act with
      | change hact hanswer hsame hreadings => exact .inr ⟨hact.2, hsame ▸ hkept⟩
      | serve other hact hother hanswer hafter =>
        exact .inr ⟨by simp [hact], by rwa [hafter] at hkept⟩
      | build settings hact hsettings hanswer hbuilt hreadings =>
        obtain rfl := Option.some.inj (hbuilt.symm.trans hkept)
        exact .inl ⟨hanswer, hreadings⟩
      | fail failure hact hsettings hanswer hnone hreadings => simp [hnone] at hkept
    · rintro (hbuilds | ⟨hact, hkept⟩)
      · exact hbuilds.spec.2
      · -- What is kept is lost by a reload only: asking for settings hands it out.
        cases (run start acts).step act with
        | change _ hanswer hsame hreadings => rw [hsame, hkept]
        | serve other _ hother hanswer hafter => rw [hafter, hkept]
        | build settings hread hsettings hanswer hbuilt hreadings => simp [hact, hkept] at hread
        | fail failure hread hsettings hanswer hnone hreadings => simp [hact, hkept] at hread

/-! ## The numbers of readings -/

/-- No act takes a reading back. -/
theorem readings_le_after (session : Session) (act : Act) :
    session.readings ≤ (session.after act).readings := by
  cases session.step act with
  | change _ _ _ hreadings => omega
  | serve _ _ _ _ hafter => exact Nat.le_of_eq (by rw [hafter])
  | build _ _ _ _ _ hreadings => omega
  | fail _ _ _ _ _ hreadings => omega

/-- Later acts take no reading back. -/
theorem readings_run_le (start : Surroundings) (before later : List Act) :
    (run start before).readings ≤ (run start (before ++ later)).readings := by
  induction later using List.reverseRecOn with
  | nil => exact Nat.le_of_eq (by rw [List.append_nil])
  | append_singleton later act ih =>
    rw [← List.append_assoc, run_concat]
    exact Nat.le_trans ih (readings_le_after _ act)

/-- Readings are counted before they are handed out, if the one that is kept was. -/
theorem number_lt_of_answer (hcounted : ∀ kept ∈ session.kept, kept.number < session.readings)
    (hanswered : session.answer? act = some (.ok reading)) :
    reading.number < (session.after act).readings := by
  cases session.step act with
  | change hact hanswer hkept hreadings => simp [hanswer] at hanswered
  | serve other hact hkept hanswer hafter =>
    obtain rfl : other = reading := by simpa [hanswer] using hanswered
    rw [hafter]
    exact hcounted other hkept
  | build settings hact hsettings hanswer hkept hreadings =>
    obtain rfl : ⟨session.readings, settings⟩ = reading := by simpa [hanswer] using hanswered
    rw [hreadings]
    exact Nat.lt_succ_self _
  | fail failure hact hsettings hanswer hkept hreadings => simp [hanswer] at hanswered

/-- What is kept is one of the readings. -/
theorem number_lt_of_kept {acts : List Act} :
    ∀ kept ∈ (run start acts).kept, kept.number < (run start acts).readings := by
  induction acts using List.reverseRecOn with
  | nil => simp [run]
  | append_singleton acts act ih =>
    rw [run_concat]
    cases (run start acts).step act with
    | change hact hanswer hkept hreadings => rwa [hkept, hreadings]
    | serve other hact hkept hanswer hafter => rwa [hafter]
    | build settings hact hsettings hanswer hkept hreadings => simp [hkept, hreadings]
    | fail failure hact hsettings hanswer hkept hreadings => simp [hkept]

/-- Changes of the surroundings alone do not touch what is kept. -/
theorem run_append_changes (acts : List Act) {changes : List Act}
    (hchanges : ∀ act ∈ changes, act.IsChange) :
    (run start (acts ++ changes)).kept = (run start acts).kept ∧
      (run start (acts ++ changes)).readings = (run start acts).readings := by
  induction changes using List.reverseRecOn with
  | nil => rw [List.append_nil]; exact ⟨rfl, rfl⟩
  | append_singleton changes act ih =>
    obtain ⟨hkept, hreadings⟩ := ih fun act hact => hchanges act (List.mem_append_left _ hact)
    have hact := hchanges act (List.mem_append_right _ List.mem_cons_self)
    rw [← List.append_assoc, run_concat]
    cases act with
    | set name value => exact ⟨hkept, hreadings⟩
    | unset name => exact ⟨hkept, hreadings⟩
    | file content => exact ⟨hkept, hreadings⟩
    | get => exact absurd rfl hact.1
    | reload => exact absurd rfl hact.2

/-- With nothing kept, settings are read from the surroundings as they are now. -/
theorem answer_of_kept_eq_none {acts : List Act} (h : (run start acts).kept = none) :
    (run start acts).get.1 =
      (start.afterAll acts).settings.map (Reading.mk (run start acts).readings) := by
  rw [get_of_none h, answer_read, toSurroundings_run]

/-- A reading that succeeds is built behind the acts before it. -/
theorem builtBehind_of_read {acts : List Act}
    (hact : act = .reload ∨ act = .get ∧ (run start acts).kept = none)
    (hanswered : (run start acts).answer? act = some (.ok reading)) :
    BuiltBehind start acts (acts ++ [act]) reading := by
  refine ⟨act, [], rfl, List.not_mem_nil, hanswered, ?_⟩
  cases (run start acts).step act with
  | change hchange hanswer hkept hreadings => simp [hanswer] at hanswered
  | serve other hget hkept hanswer hafter => simp [hget, hkept] at hact
  | build settings hread hsettings hanswer hkept hreadings => exact hreadings
  | fail failure hread hsettings hanswer hkept hreadings => simp [hanswer] at hanswered

/-- A session that begins with nothing kept hands out settings by the following rules, whatever is
done in it. If some act has built a reading and no reload has been asked for since, that reading is
handed out: it is of the surroundings as they were before that act, and changes of the surroundings
do not alter it. If there is none, settings are read from the surroundings as they are now, and a
reading that succeeds is built. A reload always reads the surroundings as they are now. A reading
that fails leaves nothing behind it: the next one is of the surroundings as they are then, and its
number is that of none that was handed out before. -/
theorem get_eq_latest_built (start : Surroundings) (acts : List Act) :
    (∀ before reading, BuiltBehind start before acts reading →
      (run start acts).get.1 = .ok reading ∧
      (start.afterAll before).settings = .ok reading.settings ∧
      ∀ changes, (∀ act ∈ changes, act.IsChange) →
        (run start (acts ++ changes)).get.1 = .ok reading) ∧
    ((∀ before reading, ¬BuiltBehind start before acts reading) →
      (run start acts).get.1 =
        (start.afterAll acts).settings.map (Reading.mk (run start acts).readings) ∧
      ∀ reading, (run start acts).get.1 = .ok reading →
        BuiltBehind start acts (acts ++ [.get]) reading) ∧
    (run start acts).reload.1 =
      (start.afterAll acts).settings.map (Reading.mk (run start acts).readings) ∧
    (∀ reading, (run start acts).reload.1 = .ok reading →
      BuiltBehind start acts (acts ++ [.reload]) reading) ∧
    (∀ act failure changes, (run start acts).answer? act = some (.error failure) →
      (∀ act ∈ changes, act.IsChange) →
      (run start (acts ++ act :: changes)).get.1 =
        (start.afterAll (acts ++ changes)).settings.map (Reading.mk (run start acts).readings)) ∧
    ∀ before act later reading, acts = before ++ act :: later →
      (run start before).answer? act = some (.ok reading) →
      reading.number < (run start acts).readings := by
  refine ⟨fun before reading hbuilt => ⟨?_, ?_, ?_⟩, fun hnone => ?_, ?_, ?_, ?_, ?_⟩
  · rw [get_of_kept (kept_run_iff.mpr ⟨before, hbuilt⟩)]
  · obtain ⟨act, between, -, -, hbuilds⟩ := hbuilt
    rw [← toSurroundings_run]
    exact hbuilds.spec.1
  · intro changes hchanges
    have hkept := (run_append_changes acts hchanges).1.trans (kept_run_iff.mpr ⟨before, hbuilt⟩)
    rw [get_of_kept hkept]
  · have hkept : (run start acts).kept = none := by
      refine Option.eq_none_iff_forall_ne_some.mpr fun reading hkept => ?_
      obtain ⟨before, hbuilt⟩ := kept_run_iff.mp hkept
      exact hnone before reading hbuilt
    refine ⟨answer_of_kept_eq_none hkept, fun reading hanswered => ?_⟩
    exact builtBehind_of_read (.inr ⟨rfl, hkept⟩) (congrArg some hanswered)
  · rw [← toSurroundings_run]
    exact answer_read { run start acts with kept := none }
  · exact fun reading hanswered => builtBehind_of_read (.inl rfl) (congrArg some hanswered)
  · intro act failure changes hanswered hchanges
    obtain ⟨hkept, hreadings, hafter⟩ := after_of_failure hanswered
    obtain ⟨hkeptLater, hreadingsLater⟩ := run_append_changes (acts ++ [act]) hchanges
    rw [run_concat] at hkeptLater hreadingsLater
    rw [List.append_cons, answer_of_kept_eq_none (hkeptLater.trans hkept), hreadingsLater,
      hreadings]
    simp only [Surroundings.afterAll, List.foldl_append, List.foldl_cons, List.foldl_nil, hafter]
  · rintro before act later reading rfl hanswered
    have hbelow := number_lt_of_answer number_lt_of_kept hanswered
    rw [← run_concat] at hbelow
    rw [List.append_cons]
    exact Nat.lt_of_lt_of_le hbelow (readings_run_le start (before ++ [act]) later)

/-- A variable file that asks for methods of at least two parameters. -/
def twoParams : Act :=
  .file (some (Text.encode "CONFORMANCE_MIN_PARAMS=2\n".toList))

/-- An environment that spoils the settings. -/
def manyParams : Act :=
  .set "CONFORMANCE_MIN_PARAMS" "many"

/-- The settings in the variable file are kept when the environment spoils them, and are lost by the
reload that fails. They are read again as soon as the environment is mended. -/
theorem get_eq_latest_built_spoilt :
    BuiltBehind {} [twoParams] [twoParams, .get, manyParams] ⟨0, { minParams := 2 }⟩ ∧
      (run {} [twoParams, .get, manyParams]).get.1 = .ok ⟨0, { minParams := 2 }⟩ ∧
      (run {} [twoParams, .get, manyParams]).reload.1 =
        .error (.refused (.invalid [⟨[.key "min_params"], .unreadableInteger⟩])) ∧
      (run {} [twoParams, .get, manyParams, .reload, .unset "CONFORMANCE_MIN_PARAMS"]).get.1 =
        .ok ⟨1, { minParams := 2 }⟩ := by
  obtain ⟨hkept, -, hreload, -, hfailed, -⟩ :=
    get_eq_latest_built {} [twoParams, .get, manyParams]
  have hbuilt : BuiltBehind {} [twoParams] [twoParams, .get, manyParams]
      ⟨0, { minParams := 2 }⟩ :=
    ⟨.get, [manyParams], rfl, by decide, by decide +kernel, by decide +kernel⟩
  have hspoilt : (run {} [twoParams, .get, manyParams]).reload.1 =
      .error (.refused (.invalid [⟨[.key "min_params"], .unreadableInteger⟩])) := by
    rw [hreload]
    decide +kernel
  have hmended : ∀ act ∈ [Act.unset "CONFORMANCE_MIN_PARAMS"], act.IsChange := by decide
  refine ⟨hbuilt, (hkept _ _ hbuilt).1, hspoilt, ?_⟩
  refine (hfailed .reload _ _ (congrArg some hspoilt) hmended).trans ?_
  decide +kernel

end Session

end NearMiss.Settings

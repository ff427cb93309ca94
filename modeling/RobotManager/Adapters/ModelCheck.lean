import RobotManager.Adapters.EfortJog
import RobotManager.Config.FailClosed

/-!
# Checking the controller's model

The loader requires a model that is not empty, and the adapter compares models after it has
normalised them.  A model without a letter or a digit passes the first check and is empty for the
second, which takes it for one that matches every controller.
-/

namespace RobotManager

open Checked Fallible

/-! ### Matching models -/

/-- The reported model is the configured one up to normalisation, possibly behind the maker's
name. -/
def SameModel (configured reported : String) : Prop :=
  normalizeModelName reported = normalizeModelName configured ∨
    normalizeModelName reported = "EFORT".toList ++ normalizeModelName configured

instance (configured reported : String) : Decidable (SameModel configured reported) :=
  inferInstanceAs (Decidable (_ ∨ _))

theorem efortModelMatches_iff {expected actual : String} :
    efortModelMatches expected actual = true ↔
      normalizeModelName expected = [] ∨ SameModel expected actual := by
  have behind : ("EFORT".toList.isPrefixOf (normalizeModelName actual) = true ∧
      (normalizeModelName actual).drop 5 = normalizeModelName expected) ↔
      normalizeModelName actual = "EFORT".toList ++ normalizeModelName expected := by
    rw [List.isPrefixOf_iff_prefix]
    constructor
    · rintro ⟨⟨rest, split⟩, tail⟩
      rw [← split] at tail ⊢
      rw [← tail]
      rfl
    · intro split
      rw [split]
      exact ⟨List.prefix_append _ _, rfl⟩
  simp only [efortModelMatches, SameModel, Bool.or_eq_true, Bool.and_eq_true, beq_iff_eq,
    List.isEmpty_iff, behind, or_assoc, @eq_comm _ (normalizeModelName expected)]

theorem normalizeModelName_eq_nil_iff {model : String} :
    normalizeModelName model = [] ↔ ∀ symbol ∈ model.toList, symbol.isAlphanum = false := by
  simp [normalizeModelName]

/-! ### Connecting -/

/-- The latest exchange is the successful answer to the question for the controller's model. -/
def EfortSession.Reports (sdk : EfortSdk) (session : EfortSession) (model : String) : Prop :=
  ∃ exchange earlier, session.exchanges = exchange :: earlier ∧
    exchange.call = .getCurrentRobotType ∧
    exchange.answer.code = sdk.constants.errorOk ∧ exchange.answer.model = model

theorem EfortSession.Reports.unique {sdk : EfortSdk} {session : EfortSession}
    {first second : String} (reports : session.Reports sdk first)
    (again : session.Reports sdk second) : first = second := by
  rcases reports with ⟨exchange, earlier, latest, _, _, rfl⟩
  rcases again with ⟨other, before, same, _, _, rfl⟩
  rw [latest] at same
  rw [(List.cons.inj same).1]

namespace EfortDriver

variable {sdk : EfortSdk} {options : ConnectionOptions} {session after : EfortSession}

theorem exists_reported_of_checkModel (run : (checkModel sdk options).run session = .ok () after) :
    ∃ reported, after.Reports sdk reported ∧
      efortModelMatches options.expectedModel reported = true := by
  rcases exists_of_bind_ok run with ⟨answer, asked, query, rest⟩
  cases query
  dsimp only at rest
  split at rest
  · rcases exists_of_bind_ok rest with ⟨_, _, _, thrown⟩
    cases thrown
  · next passed =>
    split at rest
    · rcases exists_of_bind_ok rest with ⟨_, _, _, thrown⟩
      cases thrown
    · next matched =>
      cases rest
      refine ⟨_, ⟨_, _, rfl, rfl, ?_, rfl⟩, by simpa using matched⟩
      simpa using passed

/-- A connection succeeds only with a controller whose reported model matches. -/
theorem exists_reported_of_connect (run : (connect sdk options).run session = .ok () after) :
    ∃ reported, after.Reports sdk reported ∧
      efortModelMatches options.expectedModel reported = true := by
  rcases exists_of_bind_ok run with ⟨driver, _, _, rest⟩
  split at rest
  · cases rest
  split at rest
  · cases rest
  split at rest
  · cases rest
  split at rest
  · cases rest
  rcases exists_of_bind_ok rest with ⟨_, _, _, rest⟩
  rcases exists_of_bind_ok rest with ⟨_, _, _, rest⟩
  exact exists_reported_of_checkModel rest

end EfortDriver

/-- An SDK on which every call succeeds, of a controller of the given model. -/
def sdkReporting (model : String) : EfortSdk where
  constants := EfortSession.sampleConstants
  answer _ _ _ := { code := 0, model := model }

/-- The options get past the checks that `Connect` makes before it calls the SDK. -/
def ConnectionOptions.Connectable (options : ConnectionOptions) : Prop :=
  options.address ≠ "" ∧
    ¬(options.expectedAxisCount ≠ 0 ∧ options.expectedAxisCount ≠ efortAxisCount) ∧
    inetPton options.address = true

/-- A new driver after its connection to this SDK. -/
def sessionReporting (options : ConnectionOptions) (model : String) : EfortSession where
  driver := {
    connected := true
    expectedModel := options.expectedModel
    controllerModel := model }
  exchanges := [⟨0, .getCurrentRobotType, { code := 0, model := model }⟩,
    ⟨0, .connectRobot options.address options.sdkDebugLogging options.verifySdkVersion,
      { code := 0, model := model }⟩]

theorem EfortDriver.connect_sdkReporting {options : ConnectionOptions} {model : String}
    (connectable : options.Connectable)
    (matched : efortModelMatches options.expectedModel model = true) :
    (connect (sdkReporting model) options).run {} = .ok () (sessionReporting options model) := by
  rcases connectable with ⟨address, axes, parsed⟩
  have checks : (checkModel (sdkReporting model) options).run { sessionReporting options model with
      driver := { connected := true, expectedModel := options.expectedModel }
      exchanges := (sessionReporting options model).exchanges.tail } =
      .ok () (sessionReporting options model) := by
    have agrees : ¬(!efortModelMatches options.expectedModel model) = true := by simp [matched]
    rw [checkModel, EStateM.run_bind]
    simp only [invoke, EStateM.run]
    split
    · next failed => exact absurd failed Bool.false_ne_true
    split
    · next differs => exact absurd differs agrees
    · rfl
  rw [connect, EStateM.run_bind]
  simp only [current, EStateM.run]
  rw [if_neg Bool.false_ne_true, if_neg address, if_neg axes, parsed]
  exact checks

theorem reports_sessionReporting (options : ConnectionOptions) (model : String) :
    (sessionReporting options model).Reports (sdkReporting model) model :=
  ⟨_, _, rfl, rfl, rfl, rfl⟩

/-! ### Documents with another model -/

section WithModel

variable {document : ConfigDocument} {model : String}

/-- Only the model's own setting changes. -/
theorem lookup_withModel {key : String} (other : key ≠ "robot.model") :
    (document.withScalar "robot.model" model).scalars.lookup key = document.scalars.lookup key :=
  AList.lookup_insert_ne other

theorem mem_withModel {key : String} :
    key ∈ (document.withScalar "robot.model" model).scalars ↔
      key = "robot.model" ∨ key ∈ document.scalars :=
  AList.mem_insert _

theorem ConfigDocument.Known.withModel (known : document.Known) :
    (document.withScalar "robot.model" model).Known where
  scalars := by
    intro key present notExtension
    rcases mem_withModel.mp present with rfl | old
    · decide
    · exact known.scalars key old notExtension
  lists := known.lists
  mappings := known.mappings

theorem optionalList_withModel {key : String} (other : key ≠ "robot.model") :
    optionalList (document.withScalar "robot.model" model) key = optionalList document key := by
  simp only [optionalList, mem_withModel, other, false_or]
  rfl

/-- A document that is accepted stays so with any other model that is not empty. -/
theorem ConfigDocument.Accepted.withModel {settings : RequiredSettings}
    {optional : OptionalSettings} (accepted : document.Accepted settings optional)
    (given : model ≠ "") :
    (document.withScalar "robot.model" model).Accepted { settings with modelName := model }
      optional where
  known := accepted.known.withModel
  version := by
    rw [parseInt_congr (lookup_withModel (by decide))]
    exact accepted.version
  required := by
    cases accepted.required
    constructor
    case modelName => exact requiredScalar_eq_ok_iff.mpr ⟨AList.lookup_insert _, given⟩
    all_goals
      first
        | rw [requiredScalar_congr (lookup_withModel (by decide))]
        | rw [parseBool_congr (lookup_withModel (by decide))]
        | rw [parseInt_congr (lookup_withModel (by decide))]
      assumption
  inRange := accepted.inRange
  axisCount := by
    rw [expectedAxisCount, lookup_withModel (by decide)]
    exact accepted.axisCount
  limits := by
    rw [jointLimits, optionalList_withModel (by decide)]
    exact accepted.limits
  counted := accepted.counted
  motion := accepted.motion
  workspace := by
    have same := accepted.workspace
    simp only [optionalWorkspace, hasWorkspace, cartesianWorkspace] at same ⊢
    simp only [lookup_withModel, ne_eq, String.reduceEq, not_false_eq_true]
    exact same
  outputs := by
    rw [writableDigitalOutputs, optionalList_withModel (by decide)]
    exact accepted.outputs
  programs := by
    rw [optionalList_withModel (by decide)]
    exact accepted.programs
  execution := accepted.execution

end WithModel

/-! ### The check -/

/-- A connection succeeds only with a controller of the configured model, and any two controllers it
succeeds with have the same model. -/
structure ServiceConfig.ChecksModel (config : ServiceConfig) : Prop where
  configured : ∀ {sdk session after},
    (EfortDriver.connect sdk config.connection.toConnectionOptions).run session = .ok () after →
      ∃ reported, after.Reports sdk reported ∧ SameModel config.connection.expectedModel reported
  unique : ∀ {sdk session after reported sdk' session' after' reported'},
    (EfortDriver.connect sdk config.connection.toConnectionOptions).run session = .ok () after →
    after.Reports sdk reported →
    (EfortDriver.connect sdk' config.connection.toConnectionOptions).run session' =
      .ok () after' →
    after'.Reports sdk' reported' →
      SameModel reported reported' ∨ SameModel reported' reported

theorem SameModel.similar {configured first second : String} (one : SameModel configured first)
    (other : SameModel configured second) : SameModel first second ∨ SameModel second first := by
  unfold SameModel at *
  rcases one with one | one <;> rcases other with other | other <;> simp [one, other]

theorem ServiceConfig.checksModel_of_normalized {config : ServiceConfig}
    (named : normalizeModelName config.connection.expectedModel ≠ []) : config.ChecksModel := by
  have configured : ∀ {sdk session after},
      (EfortDriver.connect sdk config.connection.toConnectionOptions).run session =
        .ok () after →
      ∃ reported, after.Reports sdk reported ∧
        SameModel config.connection.expectedModel reported := by
    intro sdk session after run
    rcases EfortDriver.exists_reported_of_connect run with ⟨reported, reports, matched⟩
    exact ⟨reported, reports, (efortModelMatches_iff.mp matched).resolve_left named⟩
  refine ⟨configured, ?_⟩
  intro sdk session after reported sdk' session' after' reported' run reports run' reports'
  rcases configured run with ⟨model, asked, same⟩
  rcases configured run' with ⟨model', asked', same'⟩
  rw [asked.unique reports] at same
  rw [asked'.unique reports'] at same'
  exact same.similar same'

/-- With an empty normalised model every controller is accepted. -/
theorem ServiceConfig.not_checksModel {config : ServiceConfig}
    (connectable : config.connection.toConnectionOptions.Connectable)
    (nameless : normalizeModelName config.connection.expectedModel = []) : ¬config.ChecksModel := by
  intro checks
  have matched : efortModelMatches config.connection.expectedModel "IRB 6700" = true :=
    efortModelMatches_iff.mpr (Or.inl nameless)
  have run := EfortDriver.connect_sdkReporting connectable matched
  rcases checks.configured run with ⟨reported, reports, same⟩
  rw [reports.unique (reports_sessionReporting _ _), SameModel, nameless] at same
  revert same
  decide

theorem er150Document_loads : ∃ settings optional, er150Document.Accepted settings optional ∧
    (settings.serviceConfig optional).connection.toConnectionOptions.Connectable := by
  have loads : (loadServiceConfig er150Document).toOption.any (fun config =>
      config.connection.address ≠ "" ∧ config.connection.expectedAxisCount = efortAxisCount ∧
        inetPton config.connection.address = true) = true := by
    decide +kernel
  rcases exists_of_any loads with ⟨config, loaded, checked⟩
  rcases of_decide_eq_true checked with ⟨address, axes, parsed⟩
  rcases loadServiceConfig_eq_ok_iff.mp loaded with ⟨settings, optional, accepted, rfl⟩
  exact ⟨settings, optional, accepted, address, fun wrong => wrong.2 axes, parsed⟩

/-- The configured model is checked, in every configuration that loads with it, exactly if it has a
letter or a digit. -/
theorem model_checked_iff {model : String} (given : model ≠ "") :
    (∀ document config, loadServiceConfig document = .ok config →
      requiredScalar document "robot.model" = .ok model → config.ChecksModel) ↔
      ∃ symbol ∈ model.toList, symbol.isAlphanum = true := by
  have named : normalizeModelName model ≠ [] ↔
      ∃ symbol ∈ model.toList, symbol.isAlphanum = true := by
    simp [normalizeModelName_eq_nil_iff]
  rw [← named]
  constructor
  · intro checks nameless
    rcases er150Document_loads with ⟨settings, optional, accepted, connectable⟩
    have loads := accepted.withModel given
    refine ServiceConfig.not_checksModel ?_ ?_
      (checks _ _ (loadServiceConfig_eq_ok_iff.mpr ⟨_, _, loads, rfl⟩) loads.required.modelName)
    · exact connectable
    · exact nameless
  · intro normalized document config loaded read
    apply ServiceConfig.checksModel_of_normalized
    rcases loadServiceConfig_eq_ok_iff.mp loaded with ⟨settings, optional, accepted, rfl⟩
    have same : settings.modelName = model :=
      Except.ok.inj (accepted.required.modelName.symm.trans read)
    rw [← same] at normalized
    exact normalized

/-- The model of the site's document is checked. -/
theorem er150Document_checksModel : ∃ config, loadServiceConfig er150Document = .ok config ∧
    config.ChecksModel := by
  rcases er150Document_loads with ⟨settings, optional, accepted, _⟩
  have loaded := loadServiceConfig_eq_ok_iff.mpr ⟨settings, optional, accepted, rfl⟩
  have named : ∃ symbol ∈ "ER150-2700".toList, symbol.isAlphanum = true :=
    ⟨'E', by decide, by decide⟩
  exact ⟨_, loaded, (model_checked_iff (by decide)).mpr named _ _ loaded (by decide +kernel)⟩

/-- A document with a model of dashes loads and connects to a controller of another model. -/
theorem dashes_match_any_model : ∃ config after,
    loadServiceConfig (er150Document.withScalar "robot.model" "---") = .ok config ∧
    (EfortDriver.connect (sdkReporting "IRB 6700") config.connection.toConnectionOptions).run {} =
      .ok () after ∧
    after.Reports (sdkReporting "IRB 6700") "IRB 6700" ∧ ¬SameModel "---" "IRB 6700" := by
  rcases er150Document_loads with ⟨settings, optional, accepted, connectable⟩
  have given : "---" ≠ "" := by decide
  have loaded := loadServiceConfig_eq_ok_iff.mpr ⟨_, _, accepted.withModel given, rfl⟩
  have matched : efortModelMatches "---" "IRB 6700" = true := by decide
  exact ⟨_, _, loaded, EfortDriver.connect_sdkReporting connectable matched,
    reports_sessionReporting _ _, by decide⟩

end RobotManager

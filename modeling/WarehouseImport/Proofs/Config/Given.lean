import WarehouseImport.Config.Basic
import WarehouseImport.Proofs.Results

/-!
# Settings that are given

A key that a document of settings names takes its value from there, so nothing of the environment
is seen behind it. The defaults of all keys are looked up all the same. A default that cannot be
read so fails a configuration that has no use for it, which may happen to the flag and to the number
of seconds that the environment holds as texts, and to no other key.
-/

namespace WarehouseImport

namespace ConfigKey

/-- The variable that the default of a key comes from, if it comes from any. -/
def behind? : ConfigKey → Option String
  | .ansi => some "ANSI"
  | .sessionParameters => some "BACKEND_SESSION_PARAMETERS"
  | .location => some "BIGQUERY_DATASET_LOCATION"
  | .project => some "BIGQUERY_DATASET_PROJECT"
  | .logLevel => some "LOG_LEVEL"
  | .logPath => some "BQDRIVER_LOGDIR"
  | .queryTimeout => some "QUERY_TIMEOUT_S"
  | .stagingNames => some "BQDRIVER_STAGING_TABLE_PREFIX"
  | .quiet | .suppressStdout | .verbose | .vverbose => none

/-- Every key is among the keys. -/
theorem mem_all (key : ConfigKey) : key ∈ (Named.all : List ConfigKey) := by
  cases key <;> decide

/-- No two keys share a variable. -/
theorem eq_of_behind? {key other : ConfigKey} {name : String}
    (hkey : key.behind? = some name) (hother : other.behind? = some name) : key = other := by
  have hshared : ∀ key ∈ (Named.all : List ConfigKey), ∀ other ∈ (Named.all : List ConfigKey),
      key.behind? = other.behind? → key.behind? ≠ none → key = other := by decide
  exact hshared key key.mem_all other other.mem_all (hkey.trans hother.symm) (by simp [hkey])

/-- A default depends on its own variable only. -/
theorem default_congr {environment environment' : Environment} {key : ConfigKey}
    (h : ∀ name, key.behind? = some name → environment.lookup name = environment'.lookup name) :
    key.default environment = key.default environment' := by
  cases key
  case quiet | suppressStdout | verbose | vverbose => rfl
  all_goals simp only [default, h _ rfl]

/-- The defaults that are read from texts are the only ones that may fail. -/
theorem key_of_default_eq_error {environment : Environment} {key : ConfigKey} {failure : Failure}
    (h : key.default environment = .error failure) : key = .ansi ∨ key = .queryTimeout := by
  cases key <;> first | exact .inl rfl | exact .inr rfl | cases h

end ConfigKey

namespace Config

variable {members : List (String × Json)} {settings : Settings}
  {environment environment' : Environment} {key : ConfigKey}

/-- A key that is named has a setting. -/
theorem exists_setting (h : settingsOf members = .ok settings)
    (hgiven : ∃ value, (Named.name key, value) ∈ members) :
    ∃ value, settings.lookup key = some value := by
  obtain ⟨value, hmem⟩ := hgiven
  have hsetting : (key, value) ∈ settings := by
    simp only [settingsOf] at h
    split at h
    · cases h
      exact List.mem_filterMap.mpr ⟨_, hmem, by rw [Named.ofName?_name, Option.map_some]⟩
    · cases h
  cases hlookup : settings.lookup key with
  | some value => exact ⟨value, rfl⟩
  | none => exact absurd (List.lookup_eq_none_iff.mp hlookup _ hsetting) (by simp)

/-- Members that all name keys are settings. -/
theorem exists_settings (hknown : ∀ member ∈ members, ∃ key : ConfigKey,
    Named.name key = member.1) : ∃ settings, settingsOf members = .ok settings := by
  have hnone : (members.map (·.1)).filter (fun name =>
      (Named.ofName? name : Option ConfigKey).isNone) = [] := by
    refine List.filter_eq_nil_iff.mpr fun name hmem => ?_
    obtain ⟨member, hmember, rfl⟩ := List.mem_map.mp hmem
    obtain ⟨key, hkey⟩ := hknown member hmember
    simp [← hkey, Named.ofName?_name]
  unfold settingsOf
  rw [hnone]
  exact ⟨_, rfl⟩

/-- What was found for keys one by one is looked up under each of them. -/
theorem lookup_of_mapM {given : ConfigKey → Except Failure Json} {keys : List ConfigKey}
    {found : Settings}
    (h : (keys.mapM fun key => (given key).map fun value => (key, value)) = .ok found)
    (hmem : key ∈ keys) : ∃ value, given key = .ok value ∧ found.lookup key = some value := by
  induction keys generalizing found with
  | nil => cases hmem
  | cons first rest ih =>
    obtain ⟨pair, others, hpair, hothers, rfl⟩ := mapM_cons_eq_ok.mp h
    obtain ⟨value, hvalue, rfl⟩ := map_eq_ok.mp hpair
    by_cases hfirst : key = first
    · subst hfirst
      exact ⟨value, hvalue, by simp⟩
    · obtain ⟨value', hvalue', hlookup⟩ := ih hothers ((List.mem_cons.mp hmem).resolve_left hfirst)
      have hother : (key == first) = false := beq_eq_false_iff_ne.mpr hfirst
      exact ⟨value', hvalue', by simpa only [List.lookup_cons, hother] using hlookup⟩

/-- Every key is found among the defaults of an environment, with its own. -/
theorem lookup_defaults {found : Settings} (h : defaults environment = .ok found)
    (key : ConfigKey) : ∃ value, key.default environment = .ok value ∧
      found.lookup key = some value :=
  lookup_of_mapM h key.mem_all

/-- A document that names no unknown setting gives what it sets, and the defaults for the rest. -/
theorem ofDocument_of_settings (h : settingsOf members = .ok settings) :
    ofDocument environment (.obj members) =
      (defaults environment).bind fun found =>
        ofValues fun key => (settings.lookup key).or (found.lookup key) := by
  simp only [ofDocument, h]
  generalize defaults environment = found
  cases found with
  | error failure => rfl
  | ok found =>
    refine congrArg ofValues (funext fun key => ?_)
    cases settings.lookup key <;> rfl

/-- A document that names an unknown setting fails, whatever the environment. -/
theorem ofDocument_of_unknown {failure : Failure} (h : settingsOf members = .error failure) :
    ofDocument environment (.obj members) = .error failure := by
  simp only [ofDocument, h]
  rfl

/-- Environments whose defaults fail alike, and give the same to all keys that are not named, give
the same configuration. -/
theorem ofDocument_congr
    (hfails : ∀ failure,
      defaults environment = .error failure ↔ defaults environment' = .error failure)
    (hsame : ∀ other : ConfigKey, (∀ value, (Named.name other, value) ∉ members) →
      other.default environment = other.default environment') :
    ofDocument environment (.obj members) = ofDocument environment' (.obj members) := by
  cases hsettings : settingsOf members with
  | error failure => rw [ofDocument_of_unknown hsettings, ofDocument_of_unknown hsettings]
  | ok settings =>
    rw [ofDocument_of_settings hsettings, ofDocument_of_settings hsettings]
    cases hfound : defaults environment with
    | error failure => rw [(hfails failure).mp hfound]
    | ok found =>
      cases hfound' : defaults environment' with
      | error failure =>
        rw [(hfails failure).mpr hfound'] at hfound
        cases hfound
      | ok found' =>
        have hvalues : (fun key => (settings.lookup key).or (found.lookup key)) =
            fun key => (settings.lookup key).or (found'.lookup key) := by
          funext other
          cases hlookup : settings.lookup other with
          | some value => rfl
          | none =>
            have hunnamed : ∀ value, (Named.name other, value) ∉ members := by
              intro value hmem
              obtain ⟨value', hvalue'⟩ := exists_setting hsettings ⟨value, hmem⟩
              rw [hlookup] at hvalue'
              cases hvalue'
            obtain ⟨value, hvalue, hother⟩ := lookup_defaults hfound other
            obtain ⟨value', hvalue', hother'⟩ := lookup_defaults hfound' other
            rw [hsame other hunnamed, hvalue'] at hvalue
            cases hvalue
            rw [hother, hother']
        rw [Except.bind, hvalues]
        rfl

/-- The defaults of environments fail alike if those of every key do. -/
theorem defaults_eq_error_congr
    (h : ∀ (key : ConfigKey) failure,
      key.default environment = .error failure ↔ key.default environment' = .error failure)
    (failure : Failure) :
    defaults environment = .error failure ↔ defaults environment' = .error failure :=
  mapM_eq_error_congr (fun key failure => map_eq_error.trans ((h key failure).trans
    map_eq_error.symm)) failure

/-- Defaults of which a single one fails fail as that one does. -/
theorem defaults_eq_error {failure : Failure} (h : key.default environment = .error failure)
    (hothers : ∀ other : ConfigKey, other ≠ key → ∃ value, other.default environment = .ok value) :
    defaults environment = .error failure := by
  refine (mapM_eq_error fun other failure' hfailed => ?_).mpr
    ⟨rfl, key, key.mem_all, map_eq_error.mpr h⟩
  rw [map_eq_error] at hfailed
  by_cases hother : other = key
  · rw [hother, h] at hfailed
    exact (Except.error.inj hfailed).symm
  · obtain ⟨value, hvalue⟩ := hothers other hother
    rw [hvalue] at hfailed
    cases hfailed

/-- A setting that is given hides the variable behind its key, as long as the default of the key can
be read. For every document that names a key, and every two environments that agree on all variables
but the one behind it, the configurations are the same, or end with the same failure, if the default
of the key fails alike in both. It may not do so only for the flag for the dialect and the time that
a query may take; an environment in which such a default fails, and no other, ends with its failure
whatever the document gives. -/
theorem given_setting_outcome
    (hgiven : ∃ value, (Named.name key, value) ∈ members)
    (hagree : ∀ name, key.behind? ≠ some name →
      environment.lookup name = environment'.lookup name) :
    ((∀ failure, key.default environment = .error failure ↔
          key.default environment' = .error failure) →
        ofDocument environment (.obj members) = ofDocument environment' (.obj members)) ∧
      (key ≠ .ansi → key ≠ .queryTimeout →
        ofDocument environment (.obj members) = ofDocument environment' (.obj members)) ∧
      ∀ failure, key.default environment = .error failure →
        (∀ other : ConfigKey, other ≠ key → ∃ value, other.default environment = .ok value) →
        (∀ member ∈ members, ∃ named : ConfigKey, Named.name named = member.1) →
        ofDocument environment (.obj members) = .error failure := by
  have hothers : ∀ other : ConfigKey, other ≠ key →
      other.default environment = other.default environment' := fun other hother =>
    ConfigKey.default_congr fun name hname => hagree name fun hkey =>
      hother (ConfigKey.eq_of_behind? hname hkey)
  have halike : (∀ failure, key.default environment = .error failure ↔
      key.default environment' = .error failure) →
      ofDocument environment (.obj members) = ofDocument environment' (.obj members) := by
    intro hfails
    refine ofDocument_congr (defaults_eq_error_congr fun other failure => ?_) fun other hother => ?_
    · by_cases hkey : other = key
      · exact hkey ▸ hfails failure
      · rw [hothers other hkey]
    · obtain ⟨value, hmem⟩ := hgiven
      exact hothers other fun hkey => hother value (hkey ▸ hmem)
  refine ⟨halike, fun hansi htimeout => halike fun failure => ?_,
    fun failure hfailed hdefaults hknown => ?_⟩
  · have hnever (found : Environment) : key.default found ≠ .error failure := fun hfailed =>
      (ConfigKey.key_of_default_eq_error hfailed).elim hansi htimeout
    exact ⟨fun h => absurd h (hnever _), fun h => absurd h (hnever _)⟩
  · obtain ⟨settings, hsettings⟩ := exists_settings hknown
    rw [ofDocument_of_settings hsettings, defaults_eq_error hfailed hdefaults]
    rfl

/-- A document that gives the time that a query may take. -/
def timedDocument : List (String × Json) := [("query_timeout_s", .int 30)]

/-- The time is taken from the document unless the environment holds one that is no number. -/
theorem given_setting_outcome_timeout :
    (∃ config, ofDocument [] (.obj timedDocument) = .ok config ∧
      config.value .queryTimeout = .int 30) ∧
    ofDocument [("QUERY_TIMEOUT_S", "60")] (.obj timedDocument) =
      ofDocument [] (.obj timedDocument) ∧
    ofDocument [("QUERY_TIMEOUT_S", "x")] (.obj timedDocument) =
      .error (.invalidDefault "QUERY_TIMEOUT_S" "x") := by
  have hgiven : ∃ value, (Named.name ConfigKey.queryTimeout, value) ∈ timedDocument :=
    ⟨_, List.mem_cons_self⟩
  have hagree (text : String) : ∀ name, ConfigKey.queryTimeout.behind? ≠ some name →
      List.lookup name [("QUERY_TIMEOUT_S", text)] = List.lookup name [] := by
    intro name hname
    have hother : (name == "QUERY_TIMEOUT_S") = false :=
      beq_eq_false_iff_ne.mpr fun hsame => hname (congrArg some hsame.symm)
    rw [List.lookup_cons, hother]
  have hread : ConfigKey.queryTimeout.default [("QUERY_TIMEOUT_S", "60")] = .ok (.int 60) := rfl
  have hunread : ConfigKey.queryTimeout.default [("QUERY_TIMEOUT_S", "x")] =
      .error (.invalidDefault "QUERY_TIMEOUT_S" "x") := rfl
  have hunset : ConfigKey.queryTimeout.default [] = .ok .null := rfl
  obtain ⟨hsame, -, -⟩ := given_setting_outcome hgiven (hagree "60")
  obtain ⟨-, -, hfails⟩ := given_setting_outcome hgiven (hagree "x")
  refine ⟨⟨_, rfl, rfl⟩, hsame fun failure => ?_, hfails _ hunread (fun other hother => ?_) ?_⟩
  · rw [hread, hunset]
    simp
  · cases other <;> first | exact ⟨_, rfl⟩ | exact absurd rfl hother
  · intro member hmem
    rw [List.mem_singleton.mp hmem]
    exact ⟨.queryTimeout, rfl⟩

end Config

end WarehouseImport

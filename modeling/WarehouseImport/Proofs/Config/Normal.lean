import WarehouseImport.Proofs.Config.Given
import WarehouseImport.Proofs.Config.Numerals

/-!
# Normal forms of settings

Normalising a value again leaves it as it is. Parameters that were read from a text are an object,
which is taken as it is; a flag that was read is no text; a level in lower case is one of the
levels; and a number that was accepted is positive. A configuration so is made of normal forms, and
values make the configuration of theirs.
-/

namespace WarehouseImport

open WarehouseImport.Text

namespace ConfigKey

variable {key : ConfigKey} {value normal : Json}

/-- A value that normalising leaves as it is. -/
def Normal (key : ConfigKey) (value : Json) : Prop := key.normalize value = .ok value

/-- Parameters that are supported are taken as they are. -/
theorem eq_of_supportedParameters (h : supportedParameters value = .ok normal) :
    normal = value ∧ ∀ text, value ≠ .str text := by
  unfold supportedParameters at h
  dsimp only at h
  split at h
  · split at h
    · exact ⟨(Except.ok.inj h).symm, nofun⟩
    · cases h
  · split at h
    · exact ⟨(Except.ok.inj h).symm, nofun⟩
    · cases h
  · cases h

/-- Supported parameters that are no text are normal, whether there are any or none. -/
theorem normalizeParameters_of_supported (h : supportedParameters value = .ok value)
    (hobject : value.isGiven = false → value = .obj []) :
    normalizeParameters value = .ok value := by
  obtain ⟨-, htext⟩ := eq_of_supportedParameters h
  unfold normalizeParameters
  cases hgiven : value.isGiven with
  | false => rw [hobject hgiven]; rfl
  | true =>
    cases value with
    | str text => exact absurd rfl (htext text)
    | _ => exact h

/-- Parameters in normal form are normal. -/
theorem normalizeParameters_idem (h : normalizeParameters value = .ok normal) :
    normalizeParameters normal = .ok normal := by
  unfold normalizeParameters at h
  cases hgiven : value.isGiven with
  | false =>
    rw [hgiven] at h
    cases h
    rfl
  | true =>
    simp only [hgiven, Bool.not_true, Bool.false_eq_true, if_false] at h
    split at h
    · next text =>
      obtain ⟨_, hchecked, hread⟩ := bind_eq_ok.mp h
      have hne : text.isEmpty = false := by simpa [Json.isGiven] using hgiven
      split at hread
      · next document hdocument =>
        obtain ⟨rfl, -⟩ := eq_of_supportedParameters hread
        refine normalizeParameters_of_supported hread fun hempty => ?_
        -- Only an object passes the check of the text, and an object that is not given is empty.
        simp only [Setting.checkObject, hne, Bool.false_eq_true, if_false, hdocument] at hchecked
        cases normal with
        | obj members => simpa [Json.isGiven] using hempty
        | _ => cases hchecked
      · cases hread
    · obtain ⟨rfl, -⟩ := eq_of_supportedParameters h
      exact normalizeParameters_of_supported h fun hempty => by rw [hgiven] at hempty; cases hempty

/-- A flag that was read is no text. -/
theorem normalizeFlag_idem (h : key.normalizeFlag value = .ok normal) :
    key.normalizeFlag normal = .ok normal := by
  unfold normalizeFlag at h
  split at h
  · obtain ⟨flag, -, rfl⟩ := map_eq_ok.mp h
    rfl
  · next htext =>
    cases h
    unfold normalizeFlag
    split
    · next text => exact absurd rfl (htext text)
    · rfl

/-- A level that was accepted is one of the levels, all of which are in lower case. -/
theorem normalizeLogLevel_idem (h : normalizeLogLevel value = .ok normal) :
    normalizeLogLevel normal = .ok normal := by
  have hlevels : ∀ level ∈ logLevels, lower level = level ∧ level.isEmpty = false := by decide
  unfold normalizeLogLevel at h
  split at h
  · cases h
    rfl
  · split at h
    · next text _ =>
      split at h
      · next hlevel =>
        obtain ⟨hlower, hne⟩ := hlevels _ (List.contains_iff_mem.mp hlevel)
        cases h
        simp [normalizeLogLevel, Json.isGiven, hne, hlower, List.contains_iff_mem.mp hlevel]
      · cases h
    · cases h

/-- A number of seconds is positive. -/
theorem normalizeTimeout_idem (h : normalizeTimeout value = .ok normal) :
    normalizeTimeout normal = .ok normal := by
  obtain ⟨seconds?, hread, rfl⟩ := map_eq_ok.mp h
  cases seconds? with
  | none => rfl
  | some seconds =>
    have hseconds := Setting.pos_of_positive hread
    simp only [normalizeTimeout, Setting.positive, Setting.isPositive, Option.map_some,
      Option.getD_some, Bool.false_eq_true, if_false, decide_eq_true hseconds]
    rfl

/-- Normal forms are normal. -/
theorem normal_of_normalize (h : key.normalize value = .ok normal) : key.Normal normal := by
  cases key with
  | sessionParameters => exact normalizeParameters_idem h
  | ansi | quiet | suppressStdout | verbose | vverbose => exact normalizeFlag_idem h
  | logLevel => exact normalizeLogLevel_idem h
  | queryTimeout => exact normalizeTimeout_idem h
  | stagingNames =>
    have hnames : normalizeStagingNames value = .ok normal := h
    unfold normalizeStagingNames at hnames
    split at hnames
    · next hgiven =>
      cases hnames
      exact if_pos hgiven
    · cases hnames
  | location | project | logPath => rfl

/-- The keys that are not checked have every value in normal form. -/
theorem normalize_of_notMem_checked (h : key ∉ checked) (value : Json) :
    key.normalize value = .ok value := by
  cases key with
  | location | project | logPath => rfl
  | _ => exact absurd (by decide) h

end ConfigKey

namespace Config

variable {config : Config} {key : ConfigKey} {values : ConfigKey → Json} {keys : List ConfigKey}
  {settings : Settings}

/-- Values that are all there are normalised one by one. -/
theorem normalizeAll_eq_mapM (values : ConfigKey → Json) (keys : List ConfigKey) :
    normalizeAll (fun key => some (values key)) keys =
      keys.mapM fun key => (key.normalize (values key)).map fun normal => (key, normal) := by
  induction keys with
  | nil => rfl
  | cons key rest ih =>
    rw [List.mapM_cons, ← ih]
    simp only [normalizeAll]
    cases key.normalize (values key) <;> rfl

/-- What was normalised is found under its key, and nothing under another. -/
theorem lookup_of_normalizeAll
    (h : normalizeAll (fun key => some (values key)) keys = .ok settings) (key : ConfigKey) :
    (key ∈ keys → ∃ normal, key.normalize (values key) = .ok normal ∧
      settings.lookup key = some normal) ∧ (key ∉ keys → settings.lookup key = none) := by
  rw [normalizeAll_eq_mapM] at h
  refine ⟨lookup_of_mapM h, fun hother => List.lookup_eq_none_iff.mpr fun pair hmem => ?_⟩
  obtain ⟨other, hkey, hpair⟩ := exists_of_mem_mapM h hmem
  obtain ⟨_, -, rfl⟩ := map_eq_ok.mp hpair
  have hne : key ≠ other := fun hsame => hother (hsame ▸ hkey)
  simpa using hne

/-- Values give a configuration of what was normalised, and of the others as they are. -/
theorem ofValues_eq_map (values : ConfigKey → Json) :
    ofValues (fun key => some (values key)) =
      (normalizeAll (fun key => some (values key)) ConfigKey.checked).map fun normal =>
        ⟨fun key => (normal.lookup key).getD (values key)⟩ := by
  refine congrArg (Except.map · _) (funext fun normal => congrArg Config.mk (funext fun key => ?_))
  cases normal.lookup key <;> rfl

/-- Values give the configuration of their normal forms, if all have one. -/
theorem ofValues_eq_ok :
    ofValues (fun key => some (values key)) = .ok config ↔
      ∀ key : ConfigKey, key.normalize (values key) = .ok (config.value key) := by
  have hvalues : ∀ {normal : Settings},
      normalizeAll (fun key => some (values key)) ConfigKey.checked = .ok normal →
      ∀ key : ConfigKey, key.normalize (values key) =
        .ok ((normal.lookup key).getD (values key)) := by
    intro normal hnormal key
    obtain ⟨hchecked, hfree⟩ := lookup_of_normalizeAll hnormal key
    by_cases hmem : key ∈ ConfigKey.checked
    · obtain ⟨value, hvalue, hlookup⟩ := hchecked hmem
      rw [hlookup, hvalue, Option.getD_some]
    · rw [hfree hmem, ConfigKey.normalize_of_notMem_checked hmem, Option.getD_none]
  rw [ofValues_eq_map]
  constructor
  · intro h
    obtain ⟨normal, hnormal, rfl⟩ := map_eq_ok.mp h
    exact hvalues hnormal
  · intro h
    obtain ⟨normal, hnormal⟩ : ∃ normal,
        normalizeAll (fun key => some (values key)) ConfigKey.checked = .ok normal := by
      rw [normalizeAll_eq_mapM]
      exact exists_mapM_eq_ok fun key _ => ⟨_, map_eq_ok.mpr ⟨_, h key, rfl⟩⟩
    refine map_eq_ok.mpr ⟨normal, hnormal, congrArg Config.mk (funext fun key => ?_)⟩
    exact Except.ok.inj ((hvalues hnormal key).symm.trans (h key))

/-- A configuration of a document has all its values in normal form. -/
theorem normal_of_ofDocument {environment : Environment} {document : Json}
    (h : ofDocument environment document = .ok config) (key : ConfigKey) :
    key.Normal (config.value key) := by
  cases document with
  | obj members =>
    cases hsettings : settingsOf members with
    | error failure =>
      rw [ofDocument_of_unknown hsettings] at h
      cases h
    | ok settings =>
      rw [ofDocument_of_settings hsettings] at h
      obtain ⟨found, hfound, hvalues⟩ := bind_eq_ok.mp h
      -- No key is without a value, since every key has a default.
      have hall : (fun key => (settings.lookup key).or (found.lookup key)) = fun key =>
          some (((settings.lookup key).or (found.lookup key)).getD .null) := by
        funext key
        obtain ⟨value, -, hlookup⟩ := lookup_defaults hfound key
        cases settings.lookup key <;> simp [hlookup]
      rw [hall] at hvalues
      exact ConfigKey.normal_of_normalize (ofValues_eq_ok.mp hvalues key)
  | _ => cases h

end Config

end WarehouseImport

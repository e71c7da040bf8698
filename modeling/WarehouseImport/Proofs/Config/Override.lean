import WarehouseImport.Proofs.Config.Normal

/-!
# Overriding a configuration

An override normalises all values again, those that stay as well as those that are new. What stays
is in normal form already, so nothing but the given keys changes, and giving these their old values
again leads back.

An override is also followed as it happens in place: a configuration is made beside those that there
are, with the values that stay and the new ones, and its values are replaced by their normal forms
one after the other. All replacements are made at the new place, so whatever was there before the
override is there behind it, also where a value is refused halfway. How far the normal forms of a
refused configuration have got is left out, since nobody is given it.
-/

namespace WarehouseImport

namespace Config

variable {config changed : Config} {key : ConfigKey} {settings : Settings}
  {members : List (String × Json)}

/-- Settings under the names of their keys. -/
def named (settings : Settings) : List (String × Json) :=
  settings.map fun setting => (Named.name setting.1, setting.2)

/-- What a configuration has for some keys. -/
def settingsAt (config : Config) (keys : List ConfigKey) : Settings :=
  keys.map fun key => (key, config.value key)

/-- Settings are read from the names that they were put under. -/
theorem settingsOf_named (settings : Settings) : settingsOf (named settings) =
    .ok settings := by
  have hknown : ((named settings).map (·.1)).filter (fun name =>
      (Named.ofName? name : Option ConfigKey).isNone) = [] := by
    refine List.filter_eq_nil_iff.mpr fun name hmem => ?_
    obtain ⟨setting, -, rfl⟩ : ∃ setting ∈ settings, Named.name setting.1 = name := by
      simpa [named] using hmem
    simp [Named.ofName?_name]
  have hread : (named settings).filterMap (fun member =>
      (Named.ofName? member.1).map fun key => (key, member.2)) = settings := by
    rw [named, List.filterMap_map]
    simp only [Function.comp_def, Named.ofName?_name, Option.map_some]
    exact List.filterMap_some
  unfold settingsOf
  rw [hknown, hread]
  rfl

/-- An override makes a configuration of the settings, and of the old values of all other keys. -/
theorem override_of_settings (h : settingsOf members = .ok settings) (config : Config) :
    config.override members =
      ofValues fun key => some ((settings.lookup key).getD (config.value key)) := by
  simp only [override, h]
  refine congrArg ofValues (funext fun key => ?_)
  cases settings.lookup key <;> rfl

/-- An override gives the normal form of every setting, and of every old value that stays. -/
theorem override_eq_ok : config.override members = .ok changed ↔
    ∃ settings, settingsOf members = .ok settings ∧
      ∀ key : ConfigKey, key.normalize ((settings.lookup key).getD (config.value key)) =
        .ok (changed.value key) := by
  constructor
  · intro h
    obtain ⟨settings, hsettings, -⟩ := bind_eq_ok.mp h
    rw [override_of_settings hsettings] at h
    exact ⟨settings, hsettings, ofValues_eq_ok.mp h⟩
  · rintro ⟨settings, hsettings, h⟩
    rw [override_of_settings hsettings]
    exact ofValues_eq_ok.mpr h

/-- A configuration has the value of every key among those that are asked for. -/
theorem lookup_settingsAt (config : Config) (keys : List ConfigKey) (key : ConfigKey) :
    (config.settingsAt keys).lookup key = if key ∈ keys then some (config.value key) else none := by
  induction keys with
  | nil => rfl
  | cons first rest ih =>
    rw [settingsAt, List.map_cons, List.lookup_cons]
    by_cases hfirst : key = first
    · simp [hfirst]
    · have hother : (key == first) = false := beq_eq_false_iff_ne.mpr hfirst
      rw [hother]
      simpa [hfirst, settingsAt] using ih

/-- Where a key is not set, nothing is looked up. -/
theorem lookup_eq_none (h : key ∉ settings.map Prod.fst) : settings.lookup key = none := by
  refine List.lookup_eq_none_iff.mpr fun setting hmem => ?_
  have hne : key ≠ setting.1 := fun hsame => h (List.mem_map.mpr ⟨setting, hmem, hsame.symm⟩)
  simpa using hne

/-- What is given for a key is there in normal form behind an override. -/
theorem normalize_of_override {value : Json}
    (h : config.override (named settings) = .ok changed)
    (hlookup : settings.lookup key = some value) :
    key.normalize value = .ok (changed.value key) := by
  obtain ⟨read, hread, hvalues⟩ := override_eq_ok.mp h
  cases (settingsOf_named settings).symm.trans hread
  simpa [hlookup] using hvalues key

/-- An override leaves a value in normal form for which nothing is given. -/
theorem value_of_override (hnormal : key.Normal (config.value key))
    (h : config.override (named settings) = .ok changed) (hother : key ∉ settings.map Prod.fst) :
    changed.value key = config.value key := by
  obtain ⟨read, hread, hvalues⟩ := override_eq_ok.mp h
  cases (settingsOf_named settings).symm.trans hread
  have hvalue := hvalues key
  rw [lookup_eq_none hother, Option.getD_none, hnormal] at hvalue
  exact (Except.ok.inj hvalue).symm

/-- The configurations that there are, one at each place. -/
abbrev Store := List (ConfigKey → Json)

/-- Replaces the values of keys by their normal forms at a place, one after the other, up to the
first that has none. -/
def normalizeAt (place : Nat) : List ConfigKey → Store → Except Failure Unit × Store
  | [], store => (.ok (), store)
  | key :: rest, store =>
    match store[place]? with
    | none => (.error .noSuchPart, store)
    | some values =>
      match key.normalize (values key) with
      | .error failure => (.error failure, store)
      | .ok normal => normalizeAt place rest (store.set place fun other =>
          if other = key then normal else values other)

/-- Makes a configuration from the one at a place with some values replaced, and gives its place. -/
def overrideAt (place : Nat) (members : List (String × Json)) (store : Store) :
    Except Failure Nat × Store :=
  match settingsOf members, store[place]? with
  | .ok settings, some values =>
    let (outcome, made) := normalizeAt store.length ConfigKey.checked
      (store ++ [fun key => (settings.lookup key).getD (values key)])
    (outcome.map fun _ => store.length, made)
  | .error failure, _ => (.error failure, store)
  | _, none => (.error .noSuchPart, store)

/-- The values at the last place are normalised without a trace at the other places. -/
theorem normalizeAt_append (store : Store) (values : ConfigKey → Json)
    {given : ConfigKey → Json} {keys : List ConfigKey} (hdistinct : keys.Nodup)
    (hgiven : ∀ key ∈ keys, values key = given key) :
    ∃ made, normalizeAt store.length keys (store ++ [values]) =
        ((normalizeAll (fun key => some (given key)) keys).map fun _ => (), store ++ [made]) ∧
      ∀ settings, normalizeAll (fun key => some (given key)) keys = .ok settings →
        made = fun key => (settings.lookup key).getD (values key) := by
  induction keys generalizing values with
  | nil =>
    refine ⟨values, rfl, fun settings h => ?_⟩
    cases h
    rfl
  | cons key rest ih =>
    obtain ⟨hnew, hdistinct⟩ := List.nodup_cons.mp hdistinct
    have hlast : (store ++ [values])[store.length]? = some values := by simp
    simp only [normalizeAt, normalizeAll, hlast, hgiven key List.mem_cons_self]
    cases hnormal : key.normalize (given key) with
    | error failure => exact ⟨values, rfl, fun _ h => by cases h⟩
    | ok normal =>
      -- The values of the other keys are still those that are given.
      have hstays : ∀ other ∈ rest, (if other = key then normal else values other) =
          given other := by
        intro other hmem
        have hother : other ≠ key := fun hsame => hnew (hsame ▸ hmem)
        rw [if_neg hother, hgiven other (List.mem_cons_of_mem _ hmem)]
      obtain ⟨made, hmade, hvalues⟩ := ih _ hdistinct hstays
      have hset (values' : ConfigKey → Json) : (store ++ [values]).set store.length values' =
          store ++ [values'] := by simp
      refine ⟨made, ?_, fun settings h => ?_⟩
      · dsimp only
        rw [hset, hmade]
        cases normalizeAll (fun key => some (given key)) rest <;> rfl
      · obtain ⟨_, ⟨⟩, h⟩ := bind_eq_ok.mp h
        obtain ⟨others, hothers, hsame⟩ := bind_eq_ok.mp h
        cases hsame
        rw [hvalues others hothers]
        funext other
        by_cases hkey : other = key
        · subst hkey
          simp [(lookup_of_normalizeAll hothers other).2 hnew]
        · have hother : (other == key) = false := beq_eq_false_iff_ne.mpr hkey
          simp only [if_neg hkey, List.lookup_cons, hother]

/-- An override in place ends as the override does and makes what it gives, beside all that was
there. -/
theorem overrideAt_eq {store : Store} {place : Nat} (hheld : store[place]? = some config.value)
    (members : List (String × Json)) :
    ∃ made, overrideAt place members store =
        ((config.override members).map fun _ => store.length, store ++ made) ∧
      ∀ changed, config.override members = .ok changed → made = [changed.value] := by
  cases hsettings : settingsOf members with
  | error failure =>
    have hfailed : config.override members = .error failure := by rw [override, hsettings]; rfl
    refine ⟨[], ?_, fun changed h => ?_⟩
    · simp [overrideAt, hsettings, hfailed, Except.map]
    · cases hfailed.symm.trans h
  | ok settings =>
    obtain ⟨values, hvalues⟩ : ∃ values : ConfigKey → Json,
        (fun key => (settings.lookup key).getD (config.value key)) = values := ⟨_, rfl⟩
    have hoverride : config.override members =
        (normalizeAll (fun key => some (values key)) ConfigKey.checked).map fun normal =>
          ⟨fun key => (normal.lookup key).getD (values key)⟩ := by
      rw [override_of_settings hsettings, ← ofValues_eq_map, ← hvalues]
    have hdistinct : ConfigKey.checked.Nodup := by decide
    obtain ⟨made, hmade, hnormal⟩ := normalizeAt_append store values hdistinct fun _ _ => rfl
    rw [hoverride]
    refine ⟨[made], ?_, fun changed h => ?_⟩
    · simp only [overrideAt, hsettings, hheld, hvalues, hmade]
      cases normalizeAll (fun key => some (values key)) ConfigKey.checked <;> rfl
    · obtain ⟨normal, hall, rfl⟩ := map_eq_ok.mp h
      rw [hnormal normal hall]

/-- An override of a configuration that was read from a document is a clean update. It is refused
only for a setting whose value has no normal form. Otherwise all keys but the given ones keep their
values, and these get the normal forms of what was given; without any keys nothing changes, and with
the old values of the given keys behind it the old configuration is back. However it ends, the
configurations that were there before are there behind it, the overridden one among them, and the
result is made beside them. -/
theorem override_clean {environment : Environment} {document : Json}
    (h : ofDocument environment document = .ok config) (settings : Settings) :
    config.override [] = .ok config ∧
    ((∃ changed, config.override (named settings) = .ok changed) ↔
      ∀ key value, settings.lookup key = some value →
        ∃ normal, key.normalize value = .ok normal) ∧
    (∀ changed, config.override (named settings) = .ok changed →
      (∀ key ∉ settings.map Prod.fst, changed.value key = config.value key) ∧
      (∀ key value, settings.lookup key = some value →
        key.normalize value = .ok (changed.value key)) ∧
      changed.override (named (config.settingsAt (settings.map Prod.fst))) = .ok config) ∧
    ∀ (store : Store) (place : Nat), store[place]? = some config.value → ∀ members,
      (overrideAt place members store).1 =
          (config.override members).map (fun _ => store.length) ∧
        (∀ (held : Nat) (values : ConfigKey → Json), store[held]? = some values →
          (overrideAt place members store).2[held]? = some values) ∧
        ∀ changed, config.override members = .ok changed →
          (overrideAt place members store).2[store.length]? = some changed.value := by
  have hnormal := normal_of_ofDocument h
  have hsettings := settingsOf_named settings
  refine ⟨override_eq_ok.mpr ⟨[], rfl, hnormal⟩, ⟨?_, fun hall => ?_⟩, fun changed hchanged => ?_,
    fun store place hheld members => ?_⟩
  · rintro ⟨changed, hchanged⟩ key value hlookup
    exact ⟨_, normalize_of_override hchanged hlookup⟩
  · have hnormals : ∀ key : ConfigKey, ∃ normal,
        key.normalize ((settings.lookup key).getD (config.value key)) = .ok normal := by
      intro key
      cases hlookup : settings.lookup key with
      | none => exact ⟨_, hnormal key⟩
      | some value => exact hall key value hlookup
    obtain ⟨normals, hnormals⟩ := Classical.skolem.mp hnormals
    exact ⟨⟨normals⟩, override_eq_ok.mpr ⟨settings, hsettings, hnormals⟩⟩
  · refine ⟨fun key => value_of_override (hnormal key) hchanged,
      fun key value => normalize_of_override hchanged,
      override_eq_ok.mpr ⟨_, settingsOf_named _, fun key => ?_⟩⟩
    rw [lookup_settingsAt]
    split
    · exact hnormal key
    · next hother =>
      rw [Option.getD_none, value_of_override (hnormal key) hchanged hother]
      exact hnormal key
  · obtain ⟨made, hmade, hresult⟩ := overrideAt_eq hheld members
    rw [hmade]
    refine ⟨rfl, fun held values hvalues => ?_, fun changed hchanged => ?_⟩
    · have hlt : held < store.length := (List.getElem?_eq_some_iff.mp hvalues).1
      exact (List.getElem?_append_left hlt).trans hvalues
    · simp [hresult changed hchanged]

/-- A time and a level that are given as texts. -/
def textDocument : Json := .obj [("query_timeout_s", .str " 30 "), ("log_level", .str "INFO")]

/-- The time and a flag are overridden by texts and given back as they were read. A time that is not
positive is refused, and the configuration stays. -/
theorem override_clean_text : ∃ config, ofDocument [] textDocument = .ok config ∧
    (∃ changed,
      config.override (named [(.queryTimeout, .str "60"), (.quiet, .str "True")]) = .ok changed ∧
      changed.value .queryTimeout = .int 60 ∧ changed.value .quiet = .bool true ∧
      changed.value .logLevel = .str "info" ∧
      changed.override (named [(.queryTimeout, .int 30), (.quiet, .bool false)]) = .ok config) ∧
    (overrideAt 0 [("query_timeout_s", .str "0")] [config.value]).1 =
      .error (.invalidSetting "QUERY_TIMEOUT_S" "0") ∧
    (overrideAt 0 [("query_timeout_s", .str "0")] [config.value]).2[0]? = some config.value := by
  have hread : ∃ config, ofDocument [] textDocument = .ok config ∧
      config.value .queryTimeout = .int 30 ∧ config.value .quiet = .bool false ∧
      config.value .logLevel = .str "info" ∧
      config.override [("query_timeout_s", .str "0")] =
        .error (.invalidSetting "QUERY_TIMEOUT_S" "0") := ⟨_, rfl, rfl, rfl, rfl, rfl⟩
  obtain ⟨config, hconfig, htime, hquiet, hlevel, hrefused⟩ := hread
  obtain ⟨-, hgives, hclean, hplaced⟩ := override_clean hconfig
    [(.queryTimeout, .str "60"), (.quiet, .str "True")]
  obtain ⟨changed, hchanged⟩ := hgives.mpr fun key value hlookup => by
    cases key <;> cases hlookup <;> exact ⟨_, rfl⟩
  obtain ⟨hkept, hgiven, hback⟩ := hclean changed hchanged
  obtain ⟨hended, hheld, -⟩ := hplaced [config.value] 0 rfl [("query_timeout_s", .str "0")]
  refine ⟨config, hconfig, ⟨changed, hchanged, ?_, ?_, ?_, ?_⟩, ?_, hheld 0 _ rfl⟩
  · exact (Except.ok.inj (hgiven .queryTimeout _ rfl)).symm
  · exact (Except.ok.inj (hgiven .quiet _ rfl)).symm
  · rw [hkept .logLevel (by decide), hlevel]
  · simpa [settingsAt, htime, hquiet] using hback
  · rw [hended, hrefused]
    rfl

end Config

end WarehouseImport

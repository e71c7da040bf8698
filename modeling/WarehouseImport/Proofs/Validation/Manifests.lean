import WarehouseImport.Import.Filling
import WarehouseImport.Proofs.Failures.Messages
import WarehouseImport.Proofs.Run.Quiet

/-!
# Manifests of any shape

A manifest is a document from outside. It is reported as empty where it lists nothing. What it lists
is not looked at any further: each entry is asked for its address, so a manifest may also end the
reading with the failure of an entry without one, and an address need not be a text.
-/

namespace WarehouseImport.Manifest

open WarehouseImport.Action

/-- What reading a manifest ends with: the addresses of all entries in order, the report that
nothing is listed, or the failure of what is listed or of the first entry without an address. -/
inductive Outcome (uri : String) (manifest : Json) : Except Failure (List Json) → Prop
  | listed {entries addresses : List Json}
      (hentries : manifest.get? "entries" = some (.arr entries)) (hne : entries ≠ [])
      (haddresses : entries.map (Json.get? "url") = addresses.map some) :
      Outcome uri manifest (.ok addresses)
  | empty (hnone : ∀ entries, manifest.get? "entries" = some entries → entries.isGiven = false) :
      Outcome uri manifest (.error (.emptyManifest uri))
  | noList {entries : Json} (hentries : manifest.get? "entries" = some entries)
      (hgiven : entries.isGiven = true) (hkind : ∀ items, entries ≠ .arr items) :
      Outcome uri manifest (.error .wrongKind)
  | noObject {before behind : List Json} {entry : Json}
      (hentries : manifest.get? "entries" = some (.arr (before ++ entry :: behind)))
      (hbefore : ∀ other ∈ before, ∃ address, other.get? "url" = some address)
      (hkind : ¬entry.IsObject) : Outcome uri manifest (.error .wrongKind)
  | noAddress {before behind : List Json} {entry : Json}
      (hentries : manifest.get? "entries" = some (.arr (before ++ entry :: behind)))
      (hbefore : ∀ other ∈ before, ∃ address, other.get? "url" = some address)
      (hkind : entry.IsObject) (hnone : entry.get? "url" = none) :
      Outcome uri manifest (.error .noSuchMember)

/-- A manifest is reported: its addresses are texts, at least one, or it is said to be empty. -/
def Reports (uri : String) (outcome : Except Failure (List Json)) : Prop :=
  outcome = .error (.emptyManifest uri) ∨
    ∃ addresses : List String, addresses ≠ [] ∧ outcome = .ok (addresses.map .str)

/-- A manifest lists nothing, or a list of entries whose addresses are texts. -/
def Proper (manifest : Json) : Prop :=
  ∀ entries, manifest.get? "entries" = some entries → entries.isGiven = true →
    ∃ items, entries = .arr items ∧ ∀ item ∈ items, ∃ text, item.get? "url" = some (.str text)

variable {uri : String} {manifest entry : Json} {entries found : List Json} {failure : Failure}
  {outcome : Except Failure (List Json)}

/-- The address of an entry is its member of that name. -/
theorem address_eq_ok {value : Json} :
    address entry = .ok value ↔ entry.get? "url" = some value := by
  cases entry with
  | obj members =>
    rw [address, Json.get?]
    cases members.lookup "url" <;> simp
  | _ => simp [address, Json.get?]

/-- An entry has no address if it is no object or has no member of that name. -/
theorem address_eq_error :
    address entry = .error failure ↔
      (failure = .wrongKind ∧ ¬entry.IsObject) ∨
        (failure = .noSuchMember ∧ entry.IsObject ∧ entry.get? "url" = none) := by
  cases entry with
  | obj members =>
    rw [address, Json.get?]
    cases members.lookup "url" <;> simp [Json.IsObject, eq_comm]
  | _ => simp [address, Json.IsObject, eq_comm]

/-- The addresses of entries are those of each of them, in order. -/
theorem mapM_address_eq_ok :
    entries.mapM address = .ok found ↔ entries.map (Json.get? "url") = found.map some := by
  induction entries generalizing found with
  | nil =>
    cases found with
    | nil => exact ⟨fun _ => rfl, fun _ => rfl⟩
    | cons value found => exact ⟨fun h => (by cases h), fun h => (by cases h)⟩
  | cons entry entries ih =>
    rw [mapM_cons_eq_ok]
    constructor
    · rintro ⟨first, others, hfirst, hothers, rfl⟩
      rw [List.map_cons, List.map_cons, address_eq_ok.mp hfirst, ih.mp hothers]
    · intro h
      cases found with
      | nil => cases h
      | cons first others =>
        obtain ⟨hfirst, hothers⟩ := List.cons.inj h
        exact ⟨first, others, address_eq_ok.mpr hfirst, ih.mpr hothers, rfl⟩

/-- A list that is not empty is asked for the addresses of its entries. -/
theorem addresses_of_list (hentries : manifest.get? "entries" = some (.arr entries))
    (hne : entries ≠ []) : addresses uri manifest = entries.mapM address := by
  have hgiven : (Json.arr entries).isGiven = true := by simpa [Json.isGiven] using hne
  simp only [addresses, hentries, Option.getD_some, hgiven, if_true]

/-- A manifest that lists nothing is reported as empty. -/
theorem addresses_of_none
    (hnone : ∀ entries, manifest.get? "entries" = some entries → entries.isGiven = false) :
    addresses uri manifest = .error (.emptyManifest uri) := by
  cases hentries : manifest.get? "entries" with
  | none => simp [addresses, hentries, Json.isGiven]
  | some entries => simp [addresses, hentries, hnone entries hentries]

/-- Entries fail as the first of them that has no address. -/
theorem mapM_address_eq_error {before behind : List Json}
    (hbefore : ∀ other ∈ before, ∃ value, other.get? "url" = some value)
    (hentry : address entry = .error failure) :
    (before ++ entry :: behind).mapM address = .error failure := by
  refine mapM_eq_error_first.mpr ⟨before, entry, behind, rfl, fun other hother => ?_, hentry⟩
  exact (hbefore other hother).imp fun value => address_eq_ok.mpr

/-- A manifest has the outcome of reading its addresses, and no other. -/
theorem outcome_iff : Outcome uri manifest outcome ↔ outcome = addresses uri manifest := by
  constructor
  · intro h
    cases h with
    | listed hentries hne haddresses =>
      rw [addresses_of_list hentries hne, mapM_address_eq_ok.mpr haddresses]
    | empty hnone => exact (addresses_of_none hnone).symm
    | @noList entries hentries hgiven hkind =>
      cases entries with
      | arr items => exact absurd rfl (hkind items)
      | _ => simp [addresses, hentries, hgiven]
    | noObject hentries hbefore hkind =>
      rw [addresses_of_list hentries (by simp), mapM_address_eq_error hbefore]
      exact address_eq_error.mpr (.inl ⟨rfl, hkind⟩)
    | noAddress hentries hbefore hkind hnone =>
      rw [addresses_of_list hentries (by simp), mapM_address_eq_error hbefore]
      exact address_eq_error.mpr (.inr ⟨rfl, hkind, hnone⟩)
  · rintro rfl
    by_cases hgiven : ∃ entries, manifest.get? "entries" = some entries ∧ entries.isGiven = true
    · obtain ⟨entries, hentries, hgiven⟩ := hgiven
      cases entries with
      | arr items =>
        have hne : items ≠ [] := by simpa [Json.isGiven] using hgiven
        rw [addresses_of_list hentries hne]
        cases hfound : items.mapM address with
        | ok found => exact .listed hentries hne (mapM_address_eq_ok.mp hfound)
        | error failure =>
          obtain ⟨before, entry, behind, rfl, hbefore, hentry⟩ := mapM_eq_error_first.mp hfound
          have hbefore' : ∀ other ∈ before, ∃ value, other.get? "url" = some value :=
            fun other hother => (hbefore other hother).imp fun value => address_eq_ok.mp
          rcases address_eq_error.mp hentry with ⟨rfl, hkind⟩ | ⟨rfl, hkind, hnone⟩
          · exact .noObject hentries hbefore' hkind
          · exact .noAddress hentries hbefore' hkind hnone
      | _ =>
        simp only [addresses, hentries, Option.getD_some, hgiven, if_true]
        exact .noList hentries hgiven fun items => nofun
    · have hnone : ∀ entries, manifest.get? "entries" = some entries → entries.isGiven = false :=
        fun entries hentries => Bool.not_eq_true _ ▸ fun htrue => hgiven ⟨entries, hentries, htrue⟩
      exact addresses_of_none hnone ▸ .empty hnone

/-- The outcome is the addresses as texts, or that nothing is listed, exactly if the manifest is
proper. -/
theorem Outcome.reports_iff (h : Outcome uri manifest outcome) :
    Reports uri outcome ↔ Proper manifest := by
  constructor
  · rintro (rfl | ⟨texts, -, rfl⟩) entries hentries hgiven
    · cases h with
      | empty hnone =>
        rw [hnone entries hentries] at hgiven
        cases hgiven
    · cases h with
      | @listed items _ hlist _ haddresses =>
        obtain rfl : entries = .arr items := Option.some.inj (hentries.symm.trans hlist)
        refine ⟨items, rfl, fun item hitem => ?_⟩
        have haddress : item.get? "url" ∈ (texts.map Json.str).map some :=
          haddresses ▸ List.mem_map_of_mem hitem
        obtain ⟨address, hmem, haddress⟩ := List.mem_map.mp haddress
        obtain ⟨text, -, rfl⟩ := List.mem_map.mp hmem
        exact ⟨text, haddress.symm⟩
  · intro hproper
    cases h with
    | @listed entries found hentries hne haddresses =>
      obtain ⟨items, hitems, htexts⟩ := hproper _ hentries (by simpa [Json.isGiven] using hne)
      obtain rfl := Json.arr.inj hitems
      cases hall : Failure.allTexts found with
      | ok texts =>
        obtain rfl := Failure.allTexts_eq_ok.mp hall
        refine .inr ⟨texts, fun hnil => hne ?_, rfl⟩
        rw [hnil] at haddresses
        exact List.map_eq_nil_iff.mp haddresses
      | error failure =>
        obtain ⟨-, address, hmem, hkind⟩ := Failure.allTexts_eq_error.mp hall
        have hsome : some address ∈ entries.map (Json.get? "url") :=
          haddresses ▸ List.mem_map_of_mem hmem
        obtain ⟨item, hitem, haddress⟩ := List.mem_map.mp hsome
        obtain ⟨text, htext⟩ := htexts item hitem
        obtain rfl := Option.some.inj (haddress.symm.trans htext)
        cases hkind
    | empty hnone => exact .inl rfl
    | noList hentries hgiven hkind =>
      obtain ⟨items, hitems, -⟩ := hproper _ hentries hgiven
      exact absurd hitems (hkind items)
    | @noObject before behind entry hentries hbefore hkind =>
      obtain ⟨items, hitems, htexts⟩ := hproper _ hentries (by simp [Json.isGiven])
      obtain rfl := Json.arr.inj hitems
      obtain ⟨text, htext⟩ := htexts entry (by simp)
      exact absurd (Json.isObject_of_get? htext) hkind
    | @noAddress before behind entry hentries hbefore hkind hnone =>
      obtain ⟨items, hitems, htexts⟩ := hproper _ hentries (by simp [Json.isGiven])
      obtain rfl := Json.arr.inj hitems
      obtain ⟨text, htext⟩ := htexts entry (by simp)
      rw [hnone] at htext
      cases htext

/-- Reading the text of a document as a manifest opens it once and ends with the outcome of the
document. Exactly if this is proper it gives the addresses as texts, at least one, or reports that
nothing is listed. -/
theorem load_outcome {text : String} (uri : String) (token : Option Json) (session : Session)
    (hread : Json.read? text = some manifest) :
    (∀ outcome after,
      Runs (load uri token) session [⟨.openFile uri token, some text⟩] outcome after ↔
        after = session ∧ Outcome uri manifest outcome) ∧
    ∀ outcome, Outcome uri manifest outcome → (Reports uri outcome ↔ Proper manifest) := by
  refine ⟨fun outcome after => ?_, fun outcome h => h.reports_iff⟩
  rw [load, runs_ask_bind, outcome_iff]
  constructor
  · rintro ⟨answer, rest, hexchanges, hrest⟩
    cases hexchanges
    obtain ⟨-, rfl, rfl⟩ := runs_ofExcept.mp hrest
    exact ⟨rfl, by rw [read, hread]⟩
  · rintro ⟨rfl, rfl⟩
    exact ⟨some text, [], rfl, runs_ofExcept.mpr ⟨rfl, by rw [read, hread], rfl⟩⟩

/-- A manifest whose entry has no address. -/
def unaddressed : Json := .obj [("entries", .arr [.obj [("uri", .str "x")]])]

/-- An entry without an address ends the reading with the failure of a member that is missing, which
is no report. -/
theorem load_outcome_unaddressed :
    Runs (load "gs://b/m" none) (Session.start 0 ⟨Detail.normal, false, [], [], []⟩)
        [⟨.openFile "gs://b/m" none, some "\x7b\"entries\":[\x7b\"uri\":\"x\"\x7d]\x7d"⟩]
        (.error .noSuchMember) (Session.start 0 ⟨Detail.normal, false, [], [], []⟩) ∧
      ¬Reports "gs://b/m" (.error .noSuchMember) := by
  have hwritable : Json.Writable Json.depthLimit unaddressed :=
    .obj (by simp) (by simp [Json.Writable.arr, Json.Writable.obj, Json.Writable.str])
  have hprinted : Json.print? unaddressed =
      some "\x7b\"entries\":[\x7b\"uri\":\"x\"\x7d]\x7d" := by
    decide +kernel
  obtain ⟨text, htext, hread⟩ := hwritable.read?_print?
  obtain rfl := Option.some.inj (hprinted.symm.trans htext)
  have hfirst : unaddressed.get? "entries" = some (.arr ([] ++ .obj [("uri", .str "x")] :: [])) :=
    rfl
  have houtcome : Outcome "gs://b/m" unaddressed (.error .noSuchMember) :=
    .noAddress hfirst (by simp) ⟨_, rfl⟩ rfl
  obtain ⟨hruns, hreported⟩ :=
    load_outcome "gs://b/m" none (Session.start 0 ⟨Detail.normal, false, [], [], []⟩) hread
  refine ⟨(hruns _ _).mpr ⟨rfl, houtcome⟩, fun hreports => ?_⟩
  obtain ⟨items, hitems, htexts⟩ := (hreported _ houtcome).mp hreports _ hfirst rfl
  obtain rfl := Json.arr.inj hitems
  obtain ⟨address, haddress⟩ := htexts _ (List.mem_singleton_self _)
  cases haddress

end WarehouseImport.Manifest

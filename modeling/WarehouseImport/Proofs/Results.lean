import WarehouseImport.Failure.Basic

/-!
# Results that may be failures

What is known of the parts of a result that is good: a sequence is good where its parts are, and
what is made of a list item by item was made of each of its items.
-/

namespace WarehouseImport

variable {α β γ ε ε' : Type}

/-- A sequence of results is good where the first is and the second made of it. -/
theorem bind_eq_ok {result : Except ε α} {next : α → Except ε β} {value : β} :
    result >>= next = .ok value ↔ ∃ given, result = .ok given ∧ next given = .ok value := by
  cases result with
  | ok given => exact ⟨fun h => ⟨given, rfl, h⟩, fun ⟨_, hsame, h⟩ => Except.ok.inj hsame ▸ h⟩
  | error failure => exact ⟨fun h => (by cases h), fun ⟨_, hsame, _⟩ => (by cases hsame)⟩

/-- A sequence of results is a failure where the first is, or the second made of it. -/
theorem bind_eq_error {result : Except ε α} {next : α → Except ε β} {failure : ε} :
    result >>= next = .error failure ↔
      result = .error failure ∨ ∃ given, result = .ok given ∧ next given = .error failure := by
  cases result with
  | ok given =>
    constructor
    · exact fun h => .inr ⟨given, rfl, h⟩
    · rintro (hfailed | ⟨_, hsame, h⟩)
      · cases hfailed
      · exact Except.ok.inj hsame ▸ h
  | error other =>
    constructor
    · exact fun h => .inl (congrArg _ (Except.error.inj h))
    · rintro (hfailed | ⟨_, hsame, -⟩)
      · exact congrArg _ (Except.error.inj hfailed)
      · cases hsame

/-- A changed result is good where the result is. -/
theorem map_eq_ok {result : Except ε α} {change : α → β} {value : β} :
    result.map change = .ok value ↔ ∃ given, result = .ok given ∧ change given = value := by
  cases result with
  | ok given => simp [Except.map]
  | error failure => simp [Except.map]

/-- A changed result is a failure where the result is. -/
theorem map_eq_error {result : Except ε α} {change : α → β} {failure : ε} :
    result.map change = .error failure ↔ result = .error failure := by
  cases result with
  | ok given => simp [Except.map]
  | error other => simp [Except.map]

/-- Another name for its failure leaves what a result is if it is good. -/
theorem mapError_eq_ok {result : Except ε α} {rename : ε → ε'} {value : α} :
    result.mapError rename = .ok value ↔ result = .ok value := by
  cases result with
  | ok given => exact ⟨fun h => congrArg _ (Except.ok.inj h), fun h => congrArg _ (Except.ok.inj h)⟩
  | error failure => exact ⟨fun h => (by cases h), fun h => (by cases h)⟩

variable {f : α → Except ε β} {items : List α} {values : List β}

/-- What is made of a list item by item is made of the first item and of the others. -/
theorem mapM_cons_eq_ok {item : α} :
    (item :: items).mapM f = .ok values ↔
      ∃ first others,
        f item = .ok first ∧ items.mapM f = .ok others ∧ values = first :: others := by
  rw [List.mapM_cons, bind_eq_ok]
  constructor
  · intro h
    obtain ⟨first, hfirst, h⟩ := h
    obtain ⟨others, hothers, h⟩ := bind_eq_ok.mp h
    exact ⟨first, others, hfirst, hothers, (Except.ok.inj h).symm⟩
  · intro h
    obtain ⟨first, others, hfirst, hothers, rfl⟩ := h
    exact ⟨first, hfirst, bind_eq_ok.mpr ⟨others, hothers, rfl⟩⟩

/-- Where something is made of each item, it is made of the list. -/
theorem exists_mapM_eq_ok (h : ∀ item ∈ items, ∃ value, f item = .ok value) :
    ∃ values, items.mapM f = .ok values := by
  induction items with
  | nil => exact ⟨[], rfl⟩
  | cons item rest ih =>
    obtain ⟨first, hfirst⟩ := h item (by simp)
    obtain ⟨others, hothers⟩ := ih fun other hother => h other (List.mem_cons_of_mem _ hother)
    exact ⟨first :: others, mapM_cons_eq_ok.mpr ⟨first, others, hfirst, hothers, rfl⟩⟩

/-- What is made of the items of a list one by one keeps what each item gives. -/
theorem map_of_mapM {given : α → γ} {kept : β → γ}
    (hkept : ∀ item value, f item = .ok value → kept value = given item)
    (h : items.mapM f = .ok values) : values.map kept = items.map given := by
  induction items generalizing values with
  | nil =>
    cases h
    rfl
  | cons item rest ih =>
    obtain ⟨first, others, hfirst, hothers, rfl⟩ := mapM_cons_eq_ok.mp h
    rw [List.map_cons, List.map_cons, hkept item first hfirst, ih hothers]

/-- What is among the things made of the items of a list is made of one of them. -/
theorem exists_of_mem_mapM {value : β} (h : items.mapM f = .ok values) (hmem : value ∈ values) :
    ∃ item ∈ items, f item = .ok value := by
  induction items generalizing values with
  | nil =>
    cases h
    cases hmem
  | cons item rest ih =>
    obtain ⟨first, others, hfirst, hothers, rfl⟩ := mapM_cons_eq_ok.mp h
    rcases List.mem_cons.mp hmem with rfl | hmem
    · exact ⟨item, by simp, hfirst⟩
    · obtain ⟨other, hother, hvalue⟩ := ih hothers hmem
      exact ⟨other, List.mem_cons_of_mem _ hother, hvalue⟩

/-- What is made of a list has something made of each of its items. -/
theorem exists_mem_of_mapM {item : α} (h : items.mapM f = .ok values) (hmem : item ∈ items) :
    ∃ value ∈ values, f item = .ok value := by
  induction items generalizing values with
  | nil => cases hmem
  | cons head rest ih =>
    obtain ⟨first, others, hfirst, hothers, rfl⟩ := mapM_cons_eq_ok.mp h
    rcases List.mem_cons.mp hmem with rfl | hmem
    · exact ⟨first, by simp, hfirst⟩
    · obtain ⟨value, hvalue, hmade⟩ := ih hothers hmem
      exact ⟨value, List.mem_cons_of_mem _ hvalue, hmade⟩

/-- What is made of the items of a list is made of them as well by what gives the same for each of
them. -/
theorem mapM_eq_ok_of {f' : α → Except ε' β}
    (hsame : ∀ item value, f item = .ok value → f' item = .ok value)
    (h : items.mapM f = .ok values) : items.mapM f' = .ok values := by
  induction items generalizing values with
  | nil =>
    cases h
    rfl
  | cons item rest ih =>
    obtain ⟨first, others, hfirst, hothers, rfl⟩ := mapM_cons_eq_ok.mp h
    exact mapM_cons_eq_ok.mpr ⟨first, others, hsame item first hfirst, ih hothers, rfl⟩

/-- Where items fail in one way only, the list fails in that way if one of its items does. -/
theorem mapM_eq_error {failure other : ε}
    (honly : ∀ item other, f item = .error other → other = failure) :
    items.mapM f = .error other ↔ other = failure ∧ ∃ item ∈ items, f item = .error failure := by
  induction items with
  | nil =>
    constructor
    · intro h
      cases h
    · rintro ⟨-, item, hmem, -⟩
      cases hmem
  | cons item rest ih =>
    rw [List.mapM_cons, bind_eq_error]
    constructor
    · rintro (hfirst | ⟨first, -, h⟩)
      · obtain rfl := honly item other hfirst
        exact ⟨rfl, item, by simp, hfirst⟩
      · rcases bind_eq_error.mp h with hrest | ⟨others, -, hdone⟩
        · obtain ⟨rfl, failed, hmem, hfailed⟩ := ih.mp hrest
          exact ⟨rfl, failed, List.mem_cons_of_mem _ hmem, hfailed⟩
        · cases hdone
    · rintro ⟨rfl, failed, hmem, hfailed⟩
      cases hfirst : f item with
      | error failure => exact .inl (congrArg _ (honly item failure hfirst))
      | ok first =>
        rcases List.mem_cons.mp hmem with rfl | hmem
        · rw [hfirst] at hfailed
          cases hfailed
        · exact .inr ⟨first, rfl, bind_eq_error.mpr (.inl (ih.mpr ⟨rfl, failed, hmem, hfailed⟩))⟩

/-- A list fails as the first of its items that fails. -/
theorem mapM_eq_error_first {failure : ε} :
    items.mapM f = .error failure ↔
      ∃ before item behind, items = before ++ item :: behind ∧
        (∀ other ∈ before, ∃ value, f other = .ok value) ∧ f item = .error failure := by
  induction items with
  | nil =>
    constructor
    · intro h
      cases h
    · rintro ⟨before, item, behind, hnil, -⟩
      simp at hnil
  | cons head rest ih =>
    rw [List.mapM_cons, bind_eq_error]
    constructor
    · rintro (hhead | ⟨value, hvalue, h⟩)
      · exact ⟨[], head, rest, rfl, by simp, hhead⟩
      · rcases bind_eq_error.mp h with hrest | ⟨others, -, hdone⟩
        · obtain ⟨before, item, behind, rfl, hbefore, hitem⟩ := ih.mp hrest
          refine ⟨head :: before, item, behind, rfl, fun other hother => ?_, hitem⟩
          rcases List.mem_cons.mp hother with rfl | hother
          · exact ⟨value, hvalue⟩
          · exact hbefore other hother
        · cases hdone
    · rintro ⟨before, item, behind, hsplit, hbefore, hitem⟩
      cases before with
      | nil =>
        obtain ⟨rfl, rfl⟩ := List.cons.inj hsplit
        exact .inl hitem
      | cons first before =>
        obtain ⟨rfl, rfl⟩ := List.cons.inj hsplit
        obtain ⟨value, hvalue⟩ := hbefore head (by simp)
        refine .inr ⟨value, hvalue, bind_eq_error.mpr (.inl (ih.mpr ?_))⟩
        exact ⟨before, item, behind, rfl,
          fun other hother => hbefore other (List.mem_cons_of_mem _ hother), hitem⟩

/-- Nothing is made of a list if nothing is made of one of its items. -/
theorem mapM_eq_none {make : α → Option β} (h : ∃ item ∈ items, make item = none) :
    items.mapM make = none := by
  induction items with
  | nil =>
    obtain ⟨item, hmem, -⟩ := h
    cases hmem
  | cons first rest ih =>
    rw [List.mapM_cons]
    cases hfirst : make first with
    | none => rfl
    | some value =>
      obtain ⟨item, hmem, hnone⟩ := h
      rcases List.mem_cons.mp hmem with rfl | hmem
      · rw [hfirst] at hnone
        cases hnone
      · rw [ih ⟨item, hmem, hnone⟩]
        rfl

/-- What is made of a list fails alike in two ways that fail alike on every item. -/
theorem mapM_eq_error_congr {f' : α → Except ε β}
    (h : ∀ item failure, f item = .error failure ↔ f' item = .error failure) (failure : ε) :
    items.mapM f = .error failure ↔ items.mapM f' = .error failure := by
  induction items with
  | nil => simp
  | cons item rest ih =>
    have hrest {given : β} {found : Except ε (List β)} :
        (found >>= fun others => pure (given :: others)) = .error failure ↔
          found = .error failure := map_eq_error
    rw [List.mapM_cons, List.mapM_cons]
    cases hitem : f item with
    | error other => rw [(h item other).mp hitem]; exact Iff.rfl
    | ok first =>
      cases hitem' : f' item with
      | error other =>
        rw [(h item other).mpr hitem'] at hitem
        cases hitem
      | ok first' => exact hrest.trans (ih.trans hrest.symm)

end WarehouseImport

import WarehouseImport.Proofs.Run.Order

/-!
# The phases of a staged import

An import through a staging table opens, fills the staging table, keeps one row for each key, writes
the destination and closes. Up to the write, nothing comes behind an exchange that failed; behind
it, only the staging table and the table of keys are dropped. That is all it takes for the
destination to be safe: it is written at most once, only behind the phases it depends on, and not at
all behind one that failed.

The phases say nothing about rows. That the written rows are those of the source is another matter.
-/

namespace WarehouseImport

/-- The staged rows that a statement writes, if it changes the rows of a destination. -/
def Statement.writes? : Statement → Option StagedInsert
  | insertStaged insert => some insert
  | replaceContents insert => some insert
  | _ => none

namespace Exchange

/-- The staged rows that the exchange writes, if it sends such a statement. -/
def writes? (exchange : Exchange) : Option StagedInsert :=
  exchange.statement?.bind Statement.writes?

/-- The exchange inserts or loads rows into a staging table. -/
def Fills (exchange : Exchange) (staging : TableName) : Prop :=
  (∃ select cast, exchange.statement? = some (.insertMapped staging select cast)) ∨
    ∃ request timeout answer,
      exchange = ⟨.load request timeout, answer⟩ ∧ request.table = staging

/-- The exchange writes nothing, and has no target but the staging table and the table of keys. -/
def Aside (staging kept : TableName) (exchange : Exchange) : Prop :=
  exchange.writes? = none ∧ ∀ table, exchange.target? = some table → table = staging ∨ table = kept

/-- The exchange writes nothing, and has no target but a destination that it creates. -/
def Prepares (destination : TableName) (exchange : Exchange) : Prop :=
  exchange.writes? = none ∧ ∀ table, exchange.target? = some table →
    table = destination ∧
      ∃ columns keys, exchange.statement? = some (.createTable table columns keys)

end Exchange

/-- The exchange that writes rows has their destination as its target. -/
theorem Exchange.target_of_writes {write : Exchange} {insert : StagedInsert} {table : TableName}
    (hwrite : write.writes? = some insert) (htarget : write.target? = some table) :
    table = insert.target := by
  obtain ⟨statement, hstatement, hrows⟩ := Option.bind_eq_some_iff.mp hwrite
  rw [target?_of_statement? hstatement] at htarget
  cases statement with
  | insertStaged rows =>
    obtain rfl : rows = insert := Option.some.inj hrows
    exact (Option.some.inj htarget).symm
  | replaceContents rows =>
    obtain rfl : rows = insert := Option.some.inj hrows
    exact (Option.some.inj htarget).symm
  | _ => cases hrows

/-- Exchanges that write nothing are not among the writes. -/
theorem filter_writes {exchanges : List Exchange}
    (h : ∀ exchange ∈ exchanges, exchange.writes? = none) :
    exchanges.filter (fun exchange => exchange.writes?.isSome) = [] := by
  rw [List.filter_eq_nil_iff]
  intro exchange hmem
  simp [h exchange hmem]

/-- A list has one place for the only item of a kind. -/
theorem eq_of_split {before last earlier later : List Exchange} {first other : Exchange}
    (heq : before ++ first :: last = earlier ++ other :: later)
    (hbefore : ∀ exchange ∈ before, exchange.writes? = none)
    (hlast : ∀ exchange ∈ last, exchange.writes? = none) (hother : other.writes?.isSome) :
    before = earlier ∧ first = other ∧ last = later := by
  have hoff {exchanges : List Exchange} (hnone : ∀ exchange ∈ exchanges, exchange.writes? = none)
      (hmem : other ∈ exchanges) : False := by
    rw [hnone other hmem] at hother
    cases hother
  rcases List.append_eq_append_iff.mp heq with ⟨rest, rfl, hsplit⟩ | ⟨rest, rfl, hsplit⟩
  · cases rest with
    | nil =>
      obtain ⟨rfl, rfl⟩ := List.cons.inj hsplit
      exact ⟨by simp, rfl, rfl⟩
    | cons item others =>
      obtain ⟨rfl, rfl⟩ := List.cons.inj hsplit
      exact (hoff hlast (by simp)).elim
  · cases rest with
    | nil =>
      obtain ⟨rfl, rfl⟩ := List.cons.inj hsplit
      exact ⟨by simp, rfl, rfl⟩
    | cons item others =>
      obtain ⟨rfl, rfl⟩ := List.cons.inj hsplit
      exact (hoff hbefore (by simp)).elim

/-- The staging table was made as a copy, or created and then filled, and all of that was done. -/
def Filled (staging : TableName) (exchanges : List Exchange) : Prop :=
  (∃ copied source, copied ∈ exchanges ∧ copied.Done ∧
    copied.statement? = some (.copyTable staging source)) ∨
  ∃ first created columns keys middle filled last,
    exchanges = first ++ created :: (middle ++ filled :: last) ∧
      created.Done ∧ created.statement? = some (.createTable staging columns keys) ∧
      filled.Done ∧ filled.Fills staging

/-- The staging table was filled, and then the table of keys was made of it, and that was done. -/
def Kept (staging kept : TableName) (keys : List String) (exchanges : List Exchange) : Prop :=
  ∃ first keeping last columns, exchanges = first ++ keeping :: last ∧ Filled staging first ∧
    keeping.Done ∧
    keeping.statement? = some (.createKeyedCopy ⟨kept, staging.table, columns, keys⟩)

/-- What a staging table was filled by stays among more exchanges. -/
theorem Filled.append {staging : TableName} {exchanges : List Exchange}
    (h : Filled staging exchanges) (before behind : List Exchange) :
    Filled staging (before ++ exchanges ++ behind) := by
  rcases h with ⟨copied, source, hmem, hcopied⟩ |
    ⟨first, created, columns, keys, middle, filled, last, rfl, hfilled⟩
  · exact .inl ⟨copied, source, by simp [hmem], hcopied⟩
  · exact .inr ⟨before ++ first, created, columns, keys, middle, filled, last ++ behind, by simp,
      hfilled⟩

/-- The phases of an import: what it sends up to the write has its parts in order and stops at the
first failure, and what follows leaves the destination aside. -/
structure Phases (destination staging kept : TableName) (keys : List String)
    (opening filling keeping writing closing : List Exchange) : Prop where
  stops : StopsAtFailure (opening ++ filling ++ keeping ++ writing)
  opens : ∀ exchange ∈ opening, exchange.Prepares destination
  fills : ∀ exchange ∈ filling, exchange.Aside staging kept
  keeps : ∀ exchange ∈ keeping, exchange.Aside staging kept
  writes : writing = [] ∨ ∃ write insert, writing = [write] ∧ write.writes? = some insert ∧
    insert.target = destination ∧
    (keys = [] → insert.source = staging.table ∧ Filled staging filling) ∧
    (keys ≠ [] → insert.source = kept.table ∧ Kept staging kept keys (filling ++ keeping))
  closes : ∀ exchange ∈ closing, exchange.Aside staging kept

/-- What a staged import promises about its destination. The keys are those of an opening that is
told from others by `Opened`. -/
structure DestinationSafe (destination staging kept : TableName)
    (Opened : List Exchange → List String → Prop) (exchanges : List Exchange) : Prop where
  /-- The destination is written at most once. -/
  once : (exchanges.filter fun exchange => exchange.writes?.isSome).length ≤ 1
  /-- It is written from the staging table when that is filled; or, if there are keys, from the
  table of keys when that is made of the filled staging table. -/
  ready : ∀ earlier write later insert, exchanges = earlier ++ write :: later →
    write.writes? = some insert →
      ∃ opening rest keys, earlier = opening ++ rest ∧ Opened opening keys ∧
        insert.target = destination ∧
        (keys = [] → insert.source = staging.table ∧ Filled staging rest) ∧
        (keys ≠ [] → insert.source = kept.table ∧ Kept staging kept keys rest)
  /-- Behind a failure only the staging table and the table of keys are targets. -/
  untouched : ∀ earlier failed later, exchanges = earlier ++ failed :: later → failed.Failed →
    ∀ exchange ∈ later, ∀ table, exchange.target? = some table → table = staging ∨ table = kept
  /-- Nothing else has the destination as its target, but for its creation. -/
  only : ∀ exchange ∈ exchanges, ∀ table, exchange.target? = some table →
    table = staging ∨ table = kept ∨ (table = destination ∧
      (exchange.writes?.isSome ∨
        ∃ columns keys, exchange.statement? = some (.createTable destination columns keys)))

/-- An import that only opens, and stops at the first failure, keeps its destination safe. -/
theorem DestinationSafe.of_opening {destination staging kept : TableName}
    {Opened : List Exchange → List String → Prop} {exchanges : List Exchange}
    (hprepares : ∀ exchange ∈ exchanges, exchange.Prepares destination)
    (hstops : StopsAtFailure exchanges) :
    DestinationSafe destination staging kept Opened exchanges := by
  constructor
  · rw [filter_writes fun exchange hmem => (hprepares exchange hmem).1]
    simp
  · rintro earlier write later insert rfl hwrite
    rw [(hprepares write (by simp)).1] at hwrite
    cases hwrite
  · intro earlier failed later heq hfailed exchange hmem
    rw [hstops earlier failed later heq hfailed] at hmem
    cases hmem
  · intro exchange hmem table htarget
    obtain ⟨rfl, hcreated⟩ := (hprepares exchange hmem).2 table htarget
    exact .inr (.inr ⟨rfl, .inr hcreated⟩)

namespace Phases

variable {destination staging kept : TableName} {keys : List String}
  {opening filling keeping writing closing : List Exchange}
  {Opened : List Exchange → List String → Prop}

/-- Only the write changes the rows of the destination. -/
theorem no_writes_around
    (h : Phases destination staging kept keys opening filling keeping writing closing) :
    (∀ exchange ∈ opening ++ filling ++ keeping, exchange.writes? = none) ∧
      ∀ exchange ∈ closing, exchange.writes? = none := by
  refine ⟨fun exchange hmem => ?_, fun exchange hmem => (h.closes exchange hmem).1⟩
  rcases List.mem_append.mp hmem with hmem | hmem
  · rcases List.mem_append.mp hmem with hmem | hmem
    · exact (h.opens exchange hmem).1
    · exact (h.fills exchange hmem).1
  · exact (h.keeps exchange hmem).1

/-- The exchange that writes rows comes behind all but the closing ones. -/
theorem eq_of_writes {earlier later : List Exchange} {write : Exchange} {insert : StagedInsert}
    (h : Phases destination staging kept keys opening filling keeping writing closing)
    (heq : opening ++ filling ++ keeping ++ writing ++ closing = earlier ++ write :: later)
    (hwrite : write.writes? = some insert) :
    opening ++ filling ++ keeping = earlier ∧ writing = [write] := by
  obtain ⟨hbefore, hbehind⟩ := h.no_writes_around
  rcases h.writes with rfl | ⟨other, _, rfl, -⟩
  · have hmem : write ∈ opening ++ filling ++ keeping ++ [] ++ closing := by
      rw [heq]
      simp
    rw [List.append_nil] at hmem
    rcases List.mem_append.mp hmem with hmem | hmem
    · rw [hbefore write hmem] at hwrite
      cases hwrite
    · rw [hbehind write hmem] at hwrite
      cases hwrite
  · rw [List.append_assoc _ [other], List.singleton_append] at heq
    obtain ⟨hearlier, rfl, -⟩ := eq_of_split heq hbefore hbehind (by simp [hwrite])
    exact ⟨hearlier, rfl⟩

/-- Behind a failure there are only closing exchanges. -/
theorem mem_closing_of_failed {earlier later : List Exchange} {failed exchange : Exchange}
    (h : Phases destination staging kept keys opening filling keeping writing closing)
    (heq : opening ++ filling ++ keeping ++ writing ++ closing = earlier ++ failed :: later)
    (hfailed : failed.Failed) (hmem : exchange ∈ later) : exchange ∈ closing := by
  rcases List.append_eq_append_iff.mp heq with ⟨rest, -, hsplit⟩ | ⟨rest, hstart, hrest⟩
  · rw [hsplit]
    simp [hmem]
  · cases rest with
    | nil =>
      rw [← List.nil_append closing, ← hrest]
      simp [hmem]
    | cons first others =>
      obtain ⟨rfl, rfl⟩ := List.cons.inj hrest
      rw [h.stops earlier failed others hstart hfailed] at hmem
      exact hmem

/-- The destination is the target of its creation and of the write only. -/
theorem target_eq {exchange : Exchange} {table : TableName}
    (h : Phases destination staging kept keys opening filling keeping writing closing)
    (hmem : exchange ∈ opening ++ filling ++ keeping ++ writing ++ closing)
    (htarget : exchange.target? = some table) :
    table = staging ∨ table = kept ∨ (table = destination ∧ (exchange.writes?.isSome ∨
      ∃ columns keys, exchange.statement? = some (.createTable destination columns keys))) := by
  have haside (h : exchange.Aside staging kept) : table = staging ∨ table = kept ∨
      (table = destination ∧ (exchange.writes?.isSome ∨
        ∃ columns keys, exchange.statement? = some (.createTable destination columns keys))) :=
    (h.2 table htarget).imp_right .inl
  simp only [List.mem_append] at hmem
  rcases hmem with (((hmem | hmem) | hmem) | hmem) | hmem
  · obtain ⟨rfl, hcreated⟩ := (h.opens exchange hmem).2 table htarget
    exact .inr (.inr ⟨rfl, .inr hcreated⟩)
  · exact haside (h.fills exchange hmem)
  · exact haside (h.keeps exchange hmem)
  · rcases h.writes with rfl | ⟨write, insert, rfl, hwrite, rfl, -⟩
    · cases hmem
    · rw [List.mem_singleton.mp hmem] at htarget ⊢
      exact .inr (.inr ⟨Exchange.target_of_writes hwrite htarget, .inl (by simp [hwrite])⟩)
  · exact haside (h.closes exchange hmem)

/-- An import in these phases keeps its destination safe. -/
theorem safe (hopened : Opened opening keys)
    (h : Phases destination staging kept keys opening filling keeping writing closing) :
    DestinationSafe destination staging kept Opened
      (opening ++ filling ++ keeping ++ writing ++ closing) := by
  obtain ⟨hbefore, hbehind⟩ := h.no_writes_around
  constructor
  · rw [List.filter_append, List.filter_append, filter_writes hbefore, filter_writes hbehind,
      List.append_nil, List.nil_append]
    have hlength : writing.length ≤ 1 := by
      rcases h.writes with rfl | ⟨write, insert, rfl, -⟩ <;> simp
    exact Nat.le_trans (List.length_filter_le _ _) hlength
  · intro earlier write later insert heq hwrite
    obtain ⟨rfl, rfl⟩ := h.eq_of_writes heq hwrite
    rcases h.writes with hnone | ⟨other, insert', hsame, hwrite', htarget, hunkeyed, hkeyed⟩
    · cases hnone
    obtain rfl := List.singleton_inj.mp hsame
    obtain rfl := Option.some.inj (hwrite.symm.trans hwrite')
    refine ⟨opening, filling ++ keeping, keys, by simp, hopened, htarget, fun hkeys => ?_, hkeyed⟩
    obtain ⟨hsource, hfilled⟩ := hunkeyed hkeys
    exact ⟨hsource, by simpa using hfilled.append [] keeping⟩
  · intro earlier failed later heq hfailed exchange hmem table htarget
    exact (h.closes exchange (h.mem_closing_of_failed heq hfailed hmem)).2 table htarget
  · exact fun exchange hmem table htarget => h.target_eq hmem htarget

end Phases

end WarehouseImport

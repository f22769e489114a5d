import Liratek.Tenant.Split

/-! A split that reports ok gives each shop its own rows, and the platform those of no shop. -/

namespace Liratek.Tenant.SplitSeparation
open Lib.Calls Split

/-! Lookups. -/

section
variable {a b c name : String} {db : Database} {t : SqlTable}

theorem sameName_iff : sameName a b = true ↔ a.toList.map Char.toLower = b.toList.map Char.toLower :=
  decide_eq_true_iff

theorem sameName_symm (same : sameName a b = true) : sameName b a = true :=
  sameName_iff.mpr (sameName_iff.mp same).symm

theorem sameName_trans (same : sameName a b = true) (next : sameName b c = true) : sameName a c = true :=
  sameName_iff.mpr ((sameName_iff.mp same).trans (sameName_iff.mp next))

theorem sameName_right (same : sameName a b = true) (other : String) : sameName other a = sameName other b := by
  unfold sameName
  rw [sameName_iff.mp same]

theorem table?_mem (found : table? db name = some t) : t ∈ db :=
  List.mem_of_find?_eq_some found

theorem table?_name (found : table? db name = some t) : sameName t.name name = true := by
  have holds := List.find?_some found
  exact holds

theorem table?_congr (same : sameName a b = true) (db : Database) : table? db a = table? db b := by
  unfold table?
  congr 1
  funext t
  exact sameName_right same t.name

/-- A table is found by its own name. -/
theorem table?_self (found : table? db name = some t) : table? db t.name = some t :=
  (table?_congr (table?_name found) db).trans found

theorem table?_alter (db : Database) (altered : String) (change : SqlTable → List Row) (name : String) :
    table? (alter db altered change) name =
      (table? db name).map fun t => if sameName t.name altered then { t with rows := change t } else t := by
  unfold table? alter
  rw [List.find?_map]
  congr 2
  funext t
  dsimp only [Function.comp_apply]
  split
  · rfl
  · rfl

theorem table?_drop (db : Database) (tables : List String) (name : String) :
    table? (dropTables db tables) name = if tables.any (sameName name) then none else table? db name := by
  have moved : ∀ t : SqlTable, sameName t.name name = true → tables.any (sameName t.name) = tables.any (sameName name) := by
    intro t same
    congr 1
    funext table
    rw [sameName, sameName, sameName_iff.mp same]
  unfold table? dropTables
  rw [List.find?_filter]
  split_ifs with dropped
  · rw [List.find?_eq_none]
    intro t _ both
    obtain ⟨kept, same⟩ := of_decide_eq_true both
    rw [moved t same, dropped] at kept
    cases kept
  · congr 1
    funext t
    by_cases same : sameName t.name name = true
    · rw [moved t same, (Bool.not_eq_true _).mp dropped, same]
      rfl
    · rw [(Bool.not_eq_true _).mp same]
      exact decide_eq_false fun both => Bool.false_ne_true both.2

theorem openTable_ok {columns : List String} (opened : openTable db name columns = .ok t) : table? db name = some t := by
  unfold openTable at opened
  split at opened
  · cases opened
  · rename_i t' found
    split at opened
    · cases opened
    · cases opened
      exact found

theorem quoteIdent_ok {quoted : String} (done : quoteIdent name = .ok quoted) : quoted = name := by
  unfold quoteIdent at done
  split_ifs at done
  exact (Except.ok.inj done).symm

end

/-! Deleting. -/

/-- The tables of the one are those of the other, with some of their rows. -/
def Part (db' db : Database) : Prop :=
  ∀ name t', table? db' name = some t' → ∃ t, table? db name = some t ∧ t' = { t with rows := t'.rows } ∧ t'.rows.Sublist t.rows

section
variable {db db' db'' : Database} {name : String} {columns : List String} {p : SqlTable → Row → Bool}

theorem Part.refl (db : Database) : Part db db :=
  fun _ t found => ⟨t, found, rfl, List.Sublist.refl _⟩

theorem Part.trans (first : Part db' db) (second : Part db'' db') : Part db'' db := by
  intro name t'' found
  obtain ⟨t', there, same', fewer'⟩ := second name t'' found
  obtain ⟨t, here, same, fewer⟩ := first name t' there
  refine ⟨t, here, ?_, fewer'.trans fewer⟩
  rw [same', same]

theorem deleteFrom_ok (done : deleteFrom db name columns p = .ok db') :
    db' = alter db name fun t => t.rows.filter fun row => !p t row := by
  obtain ⟨_, -, rfl⟩ := map_ok done
  rfl

theorem deleteFrom_table (done : deleteFrom db name columns p = .ok db') {t' : SqlTable} (found : table? db' name = some t') :
    ∃ t, table? db name = some t ∧ t' = { t with rows := t.rows.filter fun row => !p t row } := by
  rw [deleteFrom_ok done, table?_alter] at found
  obtain ⟨t, here, rfl⟩ := Option.map_eq_some_iff.mp found
  refine ⟨t, here, ?_⟩
  rw [if_pos (table?_name here)]

theorem deleteFrom_part (done : deleteFrom db name columns p = .ok db') : Part db' db := by
  intro other t' found
  rw [deleteFrom_ok done, table?_alter] at found
  obtain ⟨t, here, rfl⟩ := Option.map_eq_some_iff.mp found
  refine ⟨t, here, ?_⟩
  split_ifs
  · exact ⟨rfl, List.filter_sublist⟩
  · exact ⟨rfl, List.Sublist.refl _⟩

theorem each_part {call : Database → String → Except String Database} {tables : List String}
    (part : ∀ db table db', call db table = .ok db' → Part db' db) (done : each call db tables = .ok db') : Part db' db := by
  have keeps : ∀ table ∈ tables, ∀ s s', Part s db → call s table = .ok s' → Part s' db :=
    fun table _ s s' reached called => reached.trans (part s table s' called)
  exact each_invariant keeps (Part.refl db) done

/-- A table that one of the deletes is about keeps at most what that delete leaves of it. -/
theorem each_kept {call : Database → String → Except String Database} {tables : List String}
    {keep : List String → Row → Bool} (part : ∀ db table db', call db table = .ok db' → Part db' db) (member : name ∈ tables)
    (keeps : ∀ s s' t', call s name = .ok s' → table? s' name = some t' →
      ∃ t, table? s name = some t ∧ t' = { t with rows := t.rows.filter (keep t.columns) })
    (done : each call db tables = .ok db') {t' : SqlTable} (found : table? db' name = some t') :
    ∃ t, table? db name = some t ∧ t' = { t with rows := t'.rows } ∧ t'.rows.Sublist (t.rows.filter (keep t.columns)) := by
  obtain ⟨before, after, reached, left, -, earlier, called, later⟩ := each_at done member
  obtain ⟨t₂, there, same, fewer⟩ := each_part part later name t' found
  obtain ⟨t₁, here, rfl⟩ := keeps reached left t₂ called there
  obtain ⟨t, first, sameFirst, fewerFirst⟩ := each_part part earlier name t₁ here
  refine ⟨t, first, ?_, ?_⟩
  · rw [same, sameFirst]
  · have columns : t₁.columns = t.columns := by rw [sameFirst]
    rw [columns] at fewer
    exact fewer.trans (fewerFirst.filter _)

end

/-! The files of the shops. -/

/-- What a delete of the other shops' rows leaves. -/
def keptFor (id : Value) (columns : List String) (row : Row) : Bool :=
  !(cellOf columns row "tenant_id" = .null || sqlNe (cellOf columns row "tenant_id") id)

section
variable {db db' : Database} {id : Value} {name : String}

theorem deleteOtherShops_part (db : Database) (table : String) (db' : Database)
    (done : deleteOtherShops id db table = .ok db') : Part db' db := by
  unfold deleteOtherShops at done
  split_ifs at done
  · cases done
    exact Part.refl db
  · obtain ⟨_, -, deleted⟩ := bind_ok done
    exact deleteFrom_part deleted

theorem deleteOtherShops_kept (ordinary : name ∉ specialCasedTables) (s s' : Database) (t' : SqlTable)
    (done : deleteOtherShops id s name = .ok s') (found : table? s' name = some t') :
    ∃ t, table? s name = some t ∧ t' = { t with rows := t.rows.filter (keptFor id t.columns) } := by
  unfold deleteOtherShops at done
  rw [if_neg (by rwa [List.contains_iff_mem])] at done
  obtain ⟨quoted, quotes, deleted⟩ := bind_ok done
  rw [quoteIdent_ok quotes] at deleted
  exact deleteFrom_table deleted found

theorem deletePlatformOnly_part (db : Database) (table : String) (db' : Database)
    (done : deletePlatformOnly db table = .ok db') : Part db' db := by
  unfold deletePlatformOnly at done
  split_ifs at done
  · exact deleteFrom_part done
  · cases done
    exact Part.refl db

theorem deleteSubscriptions_part {keepOwn : Bool} (done : deleteSubscriptions id keepOwn db = .ok db') : Part db' db := by
  unfold deleteSubscriptions at done
  split_ifs at done
  · exact deleteFrom_part done
  · exact deleteFrom_part done

end

/-! The legacy rewrite. -/

section
variable (parse : Value → Option Json) (stringify : Json → String) (source : Database)

/-- The rows of a table of a shop's file after the rewrite. -/
def rewritten (t : SqlTable) : List Row :=
  if sameName t.name legacyImpersonatorTable && t.columns.contains legacyImpersonatorColumn then
    (legacyRows t).foldl (rewriteLegacyRow parse stringify source t) t.rows
  else t.rows

/-- A row is the one it was, or one of the same id named a user of the platform: then it names no user, and differs in its
metadata at most. -/
def OnlyLegacy (t : SqlTable) (before after : List Row) : Prop :=
  List.Forall₂ (fun row row' => row' = row ∨
    (∃ legacy ∈ before, t.cell legacyImpersonatorColumn legacy ≠ .null ∧
      (platformUser source (t.cell legacyImpersonatorColumn legacy)).isSome ∧
      sqlEq (t.cell "id" row) (t.cell "id" legacy) = true) ∧
    t.cell legacyImpersonatorColumn row' = .null ∧
    ∀ column, sameName legacyImpersonatorColumn column = false → sameName "metadata" column = false →
      t.cell column row' = t.cell column row) before after

end

section
variable {parse : Value → Option Json} {stringify : Json → String} {source file file' : Database} {t : SqlTable}
  {row : Row} {rows : List Row} {column other name : String} {value : Value}

theorem cellOf_set_of_ne (differ : sameName column other = false) :
    cellOf t.columns (t.setCell column value row) other = cellOf t.columns row other := by
  unfold SqlTable.setCell
  generalize t.columns = columns
  induction columns generalizing row with
  | nil => rfl
  | cons head rest ih =>
    cases row with
    | nil => rfl
    | cons first others =>
      rw [List.zipWith_cons_cons, cellOf, cellOf, ih]
      by_cases here : sameName head other = true
      · rw [if_pos here, if_pos here, if_neg]
        intro same
        rw [sameName_trans (sameName_symm same) here] at differ
        cases differ
      · rw [if_neg here, if_neg here]

theorem cellOf_set_null (column : String) (row : Row) : cellOf t.columns (t.setCell column .null row) column = .null := by
  unfold SqlTable.setCell
  generalize t.columns = columns
  induction columns generalizing row with
  | nil => rfl
  | cons head rest ih =>
    cases row with
    | nil => rfl
    | cons first others =>
      rw [List.zipWith_cons_cons, cellOf, ih]
      split_ifs
      · rfl
      · rfl

theorem rewriteLegacyRow_length (rows : List Row) (row : Row) :
    (rewriteLegacyRow parse stringify source t rows row).length = rows.length := by
  unfold rewriteLegacyRow
  split
  · rfl
  · exact List.length_map _

theorem rewritten_length (t : SqlTable) : (rewritten parse stringify source t).length = t.rows.length := by
  unfold rewritten
  split
  · generalize legacyRows t = legacy
    generalize t.rows = rows
    induction legacy generalizing rows with
    | nil => rfl
    | cons row rest ih => exact (ih _).trans (rewriteLegacyRow_length rows row)
  · rfl

theorem OnlyLegacy.refl (t : SqlTable) (rows : List Row) : OnlyLegacy source t rows rows :=
  List.forall₂_same.mpr fun _ _ => Or.inl rfl

/-- One more row of the table is rewritten. -/
theorem OnlyLegacy.step {before after : List Row} (so : OnlyLegacy source t before after) (member : row ∈ legacyRows t)
    (same : before = t.rows) : OnlyLegacy source t before (rewriteLegacyRow parse stringify source t after row) := by
  obtain ⟨listed, named⟩ := List.mem_filter.mp member
  unfold rewriteLegacyRow
  split
  · exact so
  · rename_i username found
    apply List.forall₂_map_right_iff.mpr
    refine List.Forall₂.imp ?_ so
    intro old current was
    split_ifs with hit
    · right
      have untouched : ∀ column, sameName legacyImpersonatorColumn column = false → sameName "metadata" column = false →
          t.cell column current = t.cell column old := by
        intro column impersonator metadata
        rcases was with rfl | ⟨_, _, kept⟩
        · rfl
        · exact kept column impersonator metadata
      have sameId : t.cell "id" current = t.cell "id" old := untouched "id" (by decide +kernel) (by decide +kernel)
      refine ⟨⟨row, same ▸ listed, of_decide_eq_true named, found ▸ rfl, sameId ▸ hit⟩, cellOf_set_null _ _, ?_⟩
      intro column impersonator metadata
      rw [← untouched column impersonator metadata]
      exact (cellOf_set_of_ne impersonator).trans (cellOf_set_of_ne metadata)
    · exact was

theorem rewritten_onlyLegacy (t : SqlTable) : OnlyLegacy source t t.rows (rewritten parse stringify source t) := by
  have steps : ∀ legacy : List Row, (∀ row ∈ legacy, row ∈ legacyRows t) → ∀ after, OnlyLegacy source t t.rows after →
      OnlyLegacy source t t.rows (legacy.foldl (rewriteLegacyRow parse stringify source t) after) := by
    intro legacy
    induction legacy with
    | nil => exact fun _ after so => so
    | cons row rest ih =>
      intro members after so
      obtain ⟨first, others⟩ := List.forall_mem_cons.mp members
      exact ih others _ (so.step first rfl)
  unfold rewritten
  split
  · exact steps _ (fun _ member => member) _ (OnlyLegacy.refl t t.rows)
  · exact OnlyLegacy.refl t t.rows

theorem table?_rewrite {report : List RewrittenLegacyImpersonatorRow}
    (done : rewriteLegacyImpersonatorRows parse stringify file source = .ok (file', report)) (name : String) :
    table? file' name = (table? file name).map fun t => { t with rows := rewritten parse stringify source t } := by
  have unread : (∀ t, table? file name = some t → rewritten parse stringify source t = t.rows) → file' = file →
      table? file' name = (table? file name).map fun t => { t with rows := rewritten parse stringify source t } := by
    intro still same
    rw [same]
    rcases found : table? file name with _ | t
    · rfl
    · rw [Option.map_some, still t found]
  -- the table the rewrite reads is the one of that name
  have audit : ∀ t, table? file name = some t → sameName t.name legacyImpersonatorTable = true →
      table? file legacyImpersonatorTable = some t :=
    fun t found same => (table?_congr (sameName_trans (sameName_symm (table?_name found)) same) file).symm.trans found
  unfold rewriteLegacyImpersonatorRows at done
  split_ifs at done with absent
  · cases done
    refine unread ?_ rfl
    intro t found
    apply if_neg
    intro both
    obtain ⟨same, has⟩ := Bool.and_eq_true_iff.mp both
    rw [tableColumnNames, audit t found same] at absent
    rw [Option.map_some, Option.getD_some, has] at absent
    cases absent
  · obtain ⟨read, opened, rest⟩ := bind_ok done
    have there := openTable_ok opened
    split at rest
    · rename_i none
      cases rest
      refine unread ?_ rfl
      intro t found
      unfold rewritten
      split_ifs with both
      · have same := (Bool.and_eq_true_iff.mp both).1
        rw [audit t found same] at there
        cases there
        rw [none]
        rfl
      · rfl
    · rename_i legacy
      obtain ⟨_, -, result⟩ := map_ok rest
      cases result
      rw [table?_alter]
      rcases found : table? file name with _ | t
      · rfl
      · rw [Option.map_some, Option.map_some]
        unfold rewritten
        by_cases same : sameName t.name legacyImpersonatorTable = true
        · have isRead : t = read := Option.some.inj ((audit t found same).symm.trans there)
          subst isRead
          have has : t.columns.contains legacyImpersonatorColumn = true := by
            rw [tableColumnNames, audit t found same] at absent
            simpa using absent
          rw [if_pos same, if_pos (Bool.and_eq_true_iff.mpr ⟨same, has⟩)]
        · rw [if_neg same, if_neg fun both => same (Bool.and_eq_true_iff.mp both).1]

end

/-! What is in a file, before anything is counted. -/

section
variable {parse : Value → Option Json} {stringify : Json → String} {source file : Database} {tables litestream : List String}
  {id : Value} {name : String} {t t' : SqlTable}

theorem shop_table {report : List RewrittenLegacyImpersonatorRow}
    (done : buildTenantFile parse stringify source tables litestream id = .ok (file, report))
    (found : table? file name = some t') :
    ∃ t rows, table? source name = some t ∧
      t' = { t with rows := rewritten parse stringify source { t with rows := rows } } ∧ rows.Sublist t.rows ∧
      (t.name ∈ tables → t.name ∉ specialCasedTables → rows.Sublist (t.rows.filter (keptFor id t.columns))) := by
  unfold buildTenantFile narrowToTenant at done
  split_ifs at done
  obtain ⟨narrowed, scopedDone, done⟩ := bind_ok done
  obtain ⟨own, ownDone, done⟩ := bind_ok done
  obtain ⟨unsubscribed, subscriptionsDone, done⟩ := bind_ok done
  obtain ⟨shop, platformOnlyDone, done⟩ := bind_ok done
  obtain ⟨⟨changed, report'⟩, rewriteDone, result⟩ := map_ok done
  cases result
  have laterPart : Part shop narrowed :=
    ((deleteFrom_part ownDone).trans (deleteSubscriptions_part subscriptionsDone)).trans
      (each_part deletePlatformOnly_part platformOnlyDone)
  rw [table?_drop] at found
  split_ifs at found
  rw [table?_rewrite rewriteDone] at found
  obtain ⟨kept, inShop, rfl⟩ := Option.map_eq_some_iff.mp found
  obtain ⟨middle, inNarrowed, sameKept, fewerKept⟩ := laterPart name kept inShop
  obtain ⟨t, inSource, sameMiddle, fewerMiddle⟩ := each_part deleteOtherShops_part scopedDone name middle inNarrowed
  have sameRows : kept = { t with rows := kept.rows } := by rw [sameKept, sameMiddle]
  refine ⟨t, kept.rows, inSource, ?_, fewerKept.trans fewerMiddle, ?_⟩
  · rw [sameRows]
  · intro member ordinary
    have sameName' : middle.name = t.name := by rw [sameMiddle]
    have byName := table?_self inNarrowed
    rw [sameName'] at byName
    obtain ⟨t₀, there, -, fewer⟩ := each_kept deleteOtherShops_part member (deleteOtherShops_kept ordinary) scopedDone byName
    rw [table?_self inSource] at there
    cases there
    exact fewerKept.trans fewer

/-- What is dropped is in no file. -/
theorem shop_dropped {report : List RewrittenLegacyImpersonatorRow}
    (done : buildTenantFile parse stringify source tables litestream id = .ok (file, report))
    (dropped : litestream.any (sameName name) = true) : table? file name = none := by
  unfold buildTenantFile narrowToTenant at done
  split_ifs at done
  obtain ⟨_, -, done⟩ := bind_ok done
  obtain ⟨_, -, done⟩ := bind_ok done
  obtain ⟨_, -, done⟩ := bind_ok done
  obtain ⟨_, -, done⟩ := bind_ok done
  obtain ⟨_, -, result⟩ := map_ok done
  cases result
  exact (table?_drop ..).trans (if_pos dropped)

theorem deleteShops_part (db : Database) (table : String) (db' : Database) (done : deleteShops db table = .ok db') :
    Part db' db := by
  unfold deleteShops at done
  split_ifs at done
  · cases done
    exact Part.refl db
  · obtain ⟨_, -, deleted⟩ := bind_ok done
    exact deleteFrom_part deleted

def keptGlobal (columns : List String) (row : Row) : Bool :=
  !(cellOf columns row "tenant_id" ≠ .null)

theorem deleteShops_kept (ordinary : name ≠ "tenant_subscriptions") (s s' : Database) (t' : SqlTable)
    (done : deleteShops s name = .ok s') (found : table? s' name = some t') :
    ∃ t, table? s name = some t ∧ t' = { t with rows := t.rows.filter (keptGlobal t.columns) } := by
  unfold deleteShops at done
  rw [if_neg ordinary] at done
  obtain ⟨quoted, quotes, deleted⟩ := bind_ok done
  rw [quoteIdent_ok quotes] at deleted
  exact deleteFrom_table deleted found

theorem filter_keptGlobal (t : SqlTable) : t.rows.filter (keptGlobal t.columns) = t.rows.filter (ofNoTenant t) := by
  congr 1
  funext row
  unfold keptGlobal ofNoTenant SqlTable.cell
  by_cases none : cellOf t.columns row "tenant_id" = .null
  · rw [none]
    rfl
  · rw [decide_eq_true none, decide_eq_false none]
    rfl

theorem platform_table (done : buildPlatformFile source tables litestream = .ok file)
    (found : table? file name = some t') :
    ∃ t, table? source name = some t ∧ t' = { t with rows := t'.rows } ∧ t'.rows.Sublist t.rows ∧
      (t.name ∈ tables → t.name ≠ "tenant_subscriptions" → t'.rows.Sublist (t.rows.filter (ofNoTenant t))) := by
  unfold buildPlatformFile at done
  obtain ⟨narrowed, deleted, rfl⟩ := map_ok done
  rw [table?_drop] at found
  split_ifs at found
  obtain ⟨t, inSource, same, fewer⟩ := each_part deleteShops_part deleted name t' found
  refine ⟨t, inSource, same, fewer, ?_⟩
  intro member ordinary
  have byName := table?_self found
  rw [show t'.name = t.name from by rw [same]] at byName
  obtain ⟨t₀, there, -, fewer⟩ := each_kept deleteShops_part member (deleteShops_kept ordinary) deleted byName
  rw [table?_self inSource] at there
  cases there
  rwa [filter_keptGlobal] at fewer

end

/-! What the counts say. -/

section
variable {source file : Database} {files : Files} {findings : List TableCountFinding} {table : String}

theorem countAll_ok {n : Nat} (counted : countAll source table = .ok n) :
    ∃ t, table? source table = some t ∧ t.rows.length = n := by
  obtain ⟨quoted, quotes, counted⟩ := bind_ok counted
  rw [quoteIdent_ok quotes] at counted
  obtain ⟨t, opened, rfl⟩ := map_ok counted
  exact ⟨t, openTable_ok opened, rfl⟩

theorem countWhere_ok {columns : List String} {p : SqlTable → Row → Bool} {n : Nat}
    (counted : countWhere source table columns p = .ok n) :
    ∃ t, table? source table = some t ∧ (t.rows.filter (p t)).length = n := by
  obtain ⟨quoted, quotes, counted⟩ := bind_ok counted
  rw [quoteIdent_ok quotes] at counted
  obtain ⟨t, opened, rfl⟩ := map_ok counted
  exact ⟨t, openTable_ok opened, rfl⟩

theorem finding_agrees {scope : Scope} {expected actual : Except String Nat} {f : TableCountFinding}
    (done : finding table scope expected actual = .ok f) (agrees : f.expected = f.actual) :
    ∃ n, expected = .ok n ∧ actual = .ok n := by
  obtain ⟨n, first, rest⟩ := bind_ok done
  obtain ⟨m, second, rfl⟩ := map_ok rest
  exact ⟨n, first, second.trans (congrArg _ agrees.symm)⟩

theorem scoped_counts (found : allFindings source files = .ok findings) (agree : ∀ f ∈ findings, f.expected = f.actual)
    (member : table ∈ discoverTenantScopedTables source) (ordinary : table ≠ "tenant_subscriptions") :
    (∀ id file, (id, file) ∈ files.tenants → ∃ n, countWhere source table ["tenant_id"] (ofTenant id) = .ok n ∧
      countAll file table = .ok n) ∧
    ∃ n, countWhere source table ["tenant_id"] ofNoTenant = .ok n ∧ countAll files.platform table = .ok n := by
  obtain ⟨narrowed, scopedDone, found⟩ := bind_ok found
  obtain ⟨subscriptions, -, found⟩ := bind_ok found
  obtain ⟨platformOnly, -, found⟩ := bind_ok found
  obtain ⟨tenants, -, rfl⟩ := map_ok found
  obtain ⟨here, listed, done⟩ := gather_mem scopedDone (List.mem_filter.mpr ⟨member, decide_eq_true ordinary⟩)
  have all : ∀ f ∈ here, f.expected = f.actual := by
    intro f inHere
    apply agree
    rw [List.append_assoc, List.append_assoc]
    exact List.mem_append_left _ (List.mem_flatten_of_mem listed inHere)
  obtain ⟨shops, shopsDone, done⟩ := bind_ok done
  obtain ⟨platform, platformDone, rfl⟩ := map_ok done
  constructor
  · intro id file there
    obtain ⟨f, inShops, called⟩ := gather_mem shopsDone there
    exact finding_agrees called (all f (List.mem_append_left _ inShops))
  · exact finding_agrees platformDone (all platform (List.mem_append_right _ List.mem_cons_self))

theorem retention_counts {scope : Value → Scope} {kept : Nat} {here : List TableCountFinding}
    (done : retentionFindings source files scope kept table = .ok here) (agree : ∀ f ∈ here, f.expected = f.actual) :
    (∃ n, countAll source table = .ok n ∧ countAll files.platform table = .ok n) ∧
      ∀ id file, (id, file) ∈ files.tenants → countAll file table = .ok kept := by
  obtain ⟨platform, platformDone, done⟩ := bind_ok done
  obtain ⟨shops, shopsDone, rfl⟩ := map_ok done
  refine ⟨finding_agrees platformDone (agree platform List.mem_cons_self), ?_⟩
  intro id file there
  obtain ⟨f, inShops, called⟩ := gather_mem shopsDone there
  obtain ⟨n, expected, actual⟩ := finding_agrees called (agree f (List.mem_cons_of_mem _ inShops))
  cases expected
  exact actual

/-- A table that is the platform's alone. -/
theorem platformOnly_counts (found : allFindings source files = .ok findings)
    (agree : ∀ f ∈ findings, f.expected = f.actual) (member : table ∈ "tenant_subscriptions" :: platformOnlyTables)
    (there : tableExistsIn source table = true) :
    (∃ n, countAll source table = .ok n ∧ countAll files.platform table = .ok n) ∧
      ∀ id file, (id, file) ∈ files.tenants → countAll file table = .ok 0 := by
  obtain ⟨narrowed, -, found⟩ := bind_ok found
  obtain ⟨subscriptions, subscriptionsDone, found⟩ := bind_ok found
  obtain ⟨platformOnly, platformOnlyDone, found⟩ := bind_ok found
  obtain ⟨tenants, -, rfl⟩ := map_ok found
  rcases List.mem_cons.mp member with rfl | listed
  · apply retention_counts subscriptionsDone
    intro f inHere
    apply agree
    exact List.mem_append_left _ (List.mem_append_left _ (List.mem_append_right _ inHere))
  · obtain ⟨here, inAll, done⟩ := gather_mem platformOnlyDone (List.mem_filter.mpr ⟨listed, there⟩)
    apply retention_counts done
    intro f inHere
    apply agree
    exact List.mem_append_left _ (List.mem_append_right _ (List.mem_flatten_of_mem inAll inHere))

end

/-! What a split that reports ok went through. -/

/-- The files were written from the source, and every check on them passed. -/
structure Verified (parse : Value → Option Json) (stringify : Json → String) (source : Database) (ids : List Value)
    (files : Files) : Prop where
  nothingUnsafe : unsafeTables source = []
  nothingUnscoped : unscopedTables source = []
  listed : selectTenantIds source = .ok ids
  shopIds : files.tenants.map (·.1) = ids
  once : ids.Nodup
  shops : ∀ id file, (id, file) ∈ files.tenants → ∃ report, buildTenantFile parse stringify source
    (discoverTenantScopedTables source) (discoverLitestreamTables source) id = .ok (file, report)
  platform : buildPlatformFile source (discoverTenantScopedTables source) (discoverLitestreamTables source) = .ok files.platform
  counted : ∃ findings, allFindings source files = .ok findings ∧ ∀ f ∈ findings, f.expected = f.actual

section
variable {parse : Value → Option Json} {stringify : Json → String} {source : Database} {files : Files} {ids : List Value}
  {tables litestream : List String}

theorem buildTenantFiles_ok {shops : List (Value × Database)} {rewritten : List RewrittenLegacyImpersonatorRow}
    (done : buildTenantFiles parse stringify source tables litestream ids = .ok (shops, rewritten)) :
    shops.map (·.1) = ids ∧ ids.Nodup ∧ ∀ id file, (id, file) ∈ shops →
      ∃ report, buildTenantFile parse stringify source tables litestream id = .ok (file, report) := by
  induction ids generalizing shops rewritten with
  | nil =>
    cases done
    exact ⟨rfl, List.nodup_nil, fun _ _ member => absurd member List.not_mem_nil⟩
  | cons id rest ih =>
    unfold buildTenantFiles at done
    split_ifs at done with again
    obtain ⟨⟨file, report⟩, built, done⟩ := bind_ok done
    obtain ⟨⟨others, otherReports⟩, builtOthers, result⟩ := map_ok done
    cases result
    obtain ⟨same, once, each⟩ := ih builtOthers
    refine ⟨congrArg _ same, List.nodup_cons.mpr ⟨again, once⟩, ?_⟩
    intro other otherFile member
    rcases List.mem_cons.mp member with here | later
    · cases here
      exact ⟨report, built⟩
    · exact each other otherFile later

variable {foreignKeyCheck : Database → List ForeignKeyViolationRow} {integrityCheck : Database → String}

theorem verified {options : TenantSplitOptions} (opened : options.source = some source) {report : TenantSplitReport}
    (done : splitTenantDatabase parse stringify foreignKeyCheck integrityCheck options = .ok (report, some files))
    (ok : report.ok = true) : Verified parse stringify source report.tenantIds files := by
  unfold splitTenantDatabase at done
  rw [opened] at done
  dsimp only at done
  by_cases occupied : options.outputEntries ≠ []
  · rw [if_pos occupied] at done
    cases done
  rw [if_neg occupied] at done
  obtain ⟨ids, listed, done⟩ := bind_ok done
  obtain ⟨unexpected, -, done⟩ := bind_ok done
  split_ifs at done with refused dry
  · cases done
  · cases done
  · obtain ⟨⟨built, rewritten⟩, builtDone, done⟩ := bind_ok done
    obtain ⟨findings, counted, result⟩ := map_ok done
    cases result
    obtain ⟨⟨shops, reports⟩, shopsDone, builtDone⟩ := bind_ok builtDone
    obtain ⟨platform, platformDone, result⟩ := map_ok builtDone
    cases result
    obtain ⟨same, once, each⟩ := buildTenantFiles_ok shopsDone
    have nothing := not_or.mp refused
    refine ⟨not_not.mp nothing.1, not_not.mp nothing.2, listed, same, once, each, platformDone, findings, counted, ?_⟩
    have noMismatch : (findings.filter fun f => f.expected ≠ f.actual).isEmpty = true := by
      simp only [writtenReport, plannedReport, Bool.and_eq_true] at ok
      exact ok.1.1.1.1
    intro f member
    by_contra differ
    have listed : f ∈ findings.filter fun f => f.expected ≠ f.actual :=
      List.mem_filter.mpr ⟨member, decide_eq_true differ⟩
    rw [List.isEmpty_iff.mp noMismatch] at listed
    cases listed

end

/-! What each file holds. -/

/-- A table that is split by shop. `tenants` is the registry, and `tenant_subscriptions` the platform's. -/
def SplitByShop (t : SqlTable) : Prop :=
  t.hasTenantId = true ∧ likeSqlite t.name = false ∧ t.name ∉ specialCasedTables ∧
    (isLitestreamTable t.name = true → isSimpleIdentifier t.name = true)

section
variable {parse : Value → Option Json} {stringify : Json → String} {source : Database} {files : Files} {ids : List Value}
  {name : String} {t : SqlTable} {id : Value} {file : Database}

theorem ofTenant_null (t : SqlTable) (row : Row) : ofTenant .null t row = false := by
  unfold ofTenant sqlEq
  by_cases none : t.cell "tenant_id" row = .null
  · simp [none]
  · simp [none]

theorem keptFor_eq (some : id ≠ .null) (t : SqlTable) : keptFor id t.columns = ofTenant id t := by
  funext row
  unfold keptFor ofTenant sqlEq sqlNe SqlTable.cell
  by_cases none : cellOf t.columns row "tenant_id" = .null
  · simp [none]
  · by_cases same : cellOf t.columns row "tenant_id" = id
    · simp [same]
    · simp [none, same, some]

/-- What is left for a shop, as many rows as the shop has. -/
theorem own_of_count {rows : List Row} (fewer : rows.Sublist (t.rows.filter (keptFor id t.columns)))
    (count : rows.length = (t.rows.filter (ofTenant id t)).length) : rows = t.rows.filter (ofTenant id t) := by
  by_cases none : id = .null
  · subst none
    have noRow : t.rows.filter (ofTenant .null t) = [] :=
      List.filter_eq_nil_iff.mpr fun row _ => by simp [ofTenant_null t row]
    rw [noRow] at count ⊢
    exact List.length_eq_zero_iff.mp count
  · rw [keptFor_eq none] at fewer
    exact fewer.eq_of_length count

theorem mem_scoped (nothingUnsafe : unsafeTables source = []) (member : t ∈ source) (split : SplitByShop t) :
    t.name ∈ discoverTenantScopedTables source := by
  obtain ⟨scopedTable, notLike, ordinary, litestream⟩ := split
  have simple : isSimpleIdentifier t.name = true := by
    by_cases replicated : isLitestreamTable t.name = true
    · exact litestream replicated
    · by_contra notSimple
      have found : t.name ∈ unsafeTables source := by
        refine List.mem_map_of_mem (List.mem_filter.mpr ⟨List.mem_filter.mpr ⟨member, ?_⟩, ?_⟩)
        · rw [notLike, (Bool.not_eq_true _).mp replicated]
          rfl
        · rw [(Bool.not_eq_true _).mp notSimple]
          rfl
      rw [nothingUnsafe] at found
      cases found
  apply List.mem_map_of_mem
  rw [List.mem_filter]
  refine ⟨member, ?_⟩
  have notTenants : t.name ≠ "tenants" := fun same => ordinary (same ▸ List.mem_cons_self)
  rw [notLike, simple, scopedTable, decide_eq_true notTenants]
  rfl

theorem Verified.shop (v : Verified parse stringify source ids files) (found : table? source name = some t)
    (split : SplitByShop t) (there : (id, file) ∈ files.tenants) :
    table? file name =
      some { t with rows := rewritten parse stringify source { t with rows := t.rows.filter (ofTenant id t) } } := by
  have byName := table?_self found
  have member := mem_scoped v.nothingUnsafe (table?_mem found) split
  have notSubscriptions : t.name ≠ "tenant_subscriptions" :=
    fun same => split.2.2.1 (same ▸ List.mem_cons_of_mem _ List.mem_cons_self)
  obtain ⟨findings, counted, agree⟩ := v.counted
  obtain ⟨n, expected, actual⟩ := (scoped_counts counted agree member notSubscriptions).1 id file there
  obtain ⟨t₁, inSource, rfl⟩ := countWhere_ok expected
  obtain ⟨t', inFile, count⟩ := countAll_ok actual
  rw [byName] at inSource
  cases inSource
  obtain ⟨report, built⟩ := v.shops id file there
  obtain ⟨t₂, rows, inSource, rfl, -, fewer⟩ := shop_table built inFile
  rw [byName] at inSource
  cases inSource
  have own := own_of_count (fewer member split.2.2.1) ((rewritten_length _).symm.trans count)
  rw [table?_congr (sameName_symm (table?_name found)) file, inFile, own]

theorem Verified.global (v : Verified parse stringify source ids files) (found : table? source name = some t)
    (split : SplitByShop t) : table? files.platform name = some { t with rows := t.rows.filter (ofNoTenant t) } := by
  have byName := table?_self found
  have member := mem_scoped v.nothingUnsafe (table?_mem found) split
  have notSubscriptions : t.name ≠ "tenant_subscriptions" :=
    fun same => split.2.2.1 (same ▸ List.mem_cons_of_mem _ List.mem_cons_self)
  obtain ⟨findings, counted, agree⟩ := v.counted
  obtain ⟨n, expected, actual⟩ := (scoped_counts counted agree member notSubscriptions).2
  obtain ⟨t₁, inSource, rfl⟩ := countWhere_ok expected
  obtain ⟨t', inFile, count⟩ := countAll_ok actual
  rw [byName] at inSource
  cases inSource
  obtain ⟨t₂, inSource, same, -, fewer⟩ := platform_table v.platform inFile
  rw [byName] at inSource
  cases inSource
  rw [table?_congr (sameName_symm (table?_name found)) files.platform, inFile, same,
    (fewer member notSubscriptions).eq_of_length count]

/-- The platform keeps its own tables whole, and no shop gets a row of them. -/
theorem Verified.platformOnly (v : Verified parse stringify source ids files) (found : table? source name = some t)
    (member : t.name ∈ "tenant_subscriptions" :: platformOnlyTables) :
    table? files.platform name = some t ∧
      ∀ id file, (id, file) ∈ files.tenants → table? file name = some { t with rows := [] } := by
  have byName := table?_self found
  have here := sameName_symm (table?_name found)
  obtain ⟨findings, counted, agree⟩ := v.counted
  have present : tableExistsIn source t.name = true :=
    List.any_eq_true.mpr ⟨t, table?_mem found, decide_eq_true rfl⟩
  obtain ⟨⟨n, expected, actual⟩, shops⟩ := platformOnly_counts counted agree member present
  constructor
  · obtain ⟨t₁, inSource, rfl⟩ := countAll_ok expected
    obtain ⟨t', inFile, count⟩ := countAll_ok actual
    rw [byName] at inSource
    cases inSource
    obtain ⟨t₂, inSource, same, fewer, -⟩ := platform_table v.platform inFile
    rw [byName] at inSource
    cases inSource
    rw [table?_congr here files.platform, inFile, same, fewer.eq_of_length count]
  · intro id file there
    obtain ⟨t', inFile, count⟩ := countAll_ok (shops id file there)
    obtain ⟨report, built⟩ := v.shops id file there
    obtain ⟨t₂, rows, inSource, rfl, -⟩ := shop_table built inFile
    rw [byName] at inSource
    cases inSource
    rw [table?_congr here file, inFile]
    exact congrArg (fun rows => some { t with rows := rows }) (List.length_eq_zero_iff.mp count)

theorem count_filter (p : Row → Bool) (row : Row) (rows : List Row) :
    (rows.filter p).count row = if p row then rows.count row else 0 := by
  split_ifs with holds
  · exact List.count_filter holds
  · exact List.count_eq_zero.mpr fun member => holds (List.mem_filter.mp member).2

/-- A row is counted in the part of its shop, once. -/
theorem count_shops (once : ids.Nodup) (t : SqlTable) (row : Row) :
    (ids.flatMap fun id => t.rows.filter (ofTenant id t)).count row =
      if t.cell "tenant_id" row ≠ .null ∧ t.cell "tenant_id" row ∈ ids then t.rows.count row else 0 := by
  induction ids with
  | nil => simp
  | cons id rest ih =>
    obtain ⟨new, onceRest⟩ := List.nodup_cons.mp once
    rw [List.flatMap_cons, List.count_append, ih onceRest, count_filter]
    unfold ofTenant sqlEq
    by_cases none : t.cell "tenant_id" row = .null
    · simp [none]
    · by_cases same : t.cell "tenant_id" row = id
      · simp [same, new, same ▸ none]
      · simp [none, same]

/-- The rows of the listed shops and of no shop are those of their parts. -/
theorem parts_perm (once : ids.Nodup) (t : SqlTable)
    (listed : ∀ row ∈ t.rows, t.cell "tenant_id" row = .null ∨ t.cell "tenant_id" row ∈ ids) :
    t.rows.Perm (t.rows.filter (ofNoTenant t) ++ ids.flatMap fun id => t.rows.filter (ofTenant id t)) := by
  apply List.perm_iff_count.mpr
  intro row
  rw [List.count_append, count_shops once, count_filter]
  by_cases member : row ∈ t.rows
  · unfold ofNoTenant
    rcases listed row member with none | shop
    · simp [none]
    · by_cases none : t.cell "tenant_id" row = .null
      · simp [none]
      · simp [none, shop]
  · simp [List.count_eq_zero.mpr member]

end

/-! Other shops' rows. -/

/-- The one database is the other with rows of other shops changed, added or removed. What a table known to have no
`tenant_id` holds may differ too, and one of SQLite's own. -/
structure SameForShop (id : Value) (a b : Database) : Prop where
  schema : ∀ name, (table? a name).map (fun t => (t.name, t.columns)) = (table? b name).map fun t => (t.name, t.columns)
  rows : ∀ name t u, table? a name = some t → table? b name = some u → t.name ∉ knownTablesWithoutTenantId →
    likeSqlite t.name = false → t.rows.filter (ofTenant id t) = u.rows.filter (ofTenant id u) ∧ t.rows.filter (ofNoTenant t) = u.rows.filter (ofNoTenant u)

/-- A table that is neither SQLite's, nor known to have no `tenant_id`. -/
def ShopTable (t : SqlTable) : Prop :=
  t.name ∉ knownTablesWithoutTenantId ∧ likeSqlite t.name = false ∧
    (isLitestreamTable t.name = true → isSimpleIdentifier t.name = true)

section
variable {parse : Value → Option Json} {stringify : Json → String} {a b source file : Database} {files : Files} {ids : List Value}
  {name other : String} {t u : SqlTable} {id : Value}

theorem likeSqlite_same (same : sameName name other = true) : likeSqlite name = likeSqlite other := by
  have lists := sameName_iff.mp same
  have lengths : name.length = other.length := by
    rw [← String.length_toList, ← String.length_toList, ← List.length_map Char.toLower, lists, List.length_map]
  unfold likeSqlite
  rw [List.map_take, List.map_take, lists, lengths]

theorem platformUser_same (same : SameForShop id a b) : platformUser a = platformUser b := by
  funext userId
  have schema := same.schema "users"
  unfold platformUser
  rcases inA : table? a "users" with _ | t <;> rcases inB : table? b "users" with _ | u <;> rewrite [inA, inB] at schema
  · rfl
  · cases schema
  · cases schema
  · obtain ⟨sameName, sameColumns⟩ := Prod.mk.inj (Option.some.inj schema)
    have unknown : t.name ∉ knownTablesWithoutTenantId := by
      intro known
      have users := table?_name inA
      revert users
      revert known
      generalize t.name = tableName
      revert tableName
      decide +kernel
    have notLike : likeSqlite t.name = false := (likeSqlite_same (table?_name inA)).trans (by decide +kernel)
    have cells : ∀ column row, t.cell column row = u.cell column row := by
      intro column row
      unfold SqlTable.cell
      rw [sameColumns]
    have find : ∀ s : SqlTable, (s.rows.find? fun row => sqlEq (s.cell "id" row) userId && s.cell "tenant_id" row = .null) =
        (s.rows.filter (ofNoTenant s)).find? fun row => sqlEq (s.cell "id" row) userId := by
      intro s
      rw [List.find?_filter]
      congr 1
      funext row
      simp [ofNoTenant, and_comm]
    rw [Option.bind_some, Option.bind_some, find t, find u, (same.rows "users" t u inA inB unknown notLike).2]
    simp only [cells]
    rw [show t.cell "username" = u.cell "username" from funext (cells "username")]

theorem rewritten_same (same : platformUser a = platformUser b) (t : SqlTable) :
    rewritten parse stringify a t = rewritten parse stringify b t := by
  have step : rewriteLegacyRow parse stringify a t = rewriteLegacyRow parse stringify b t := by
    funext rows row
    unfold rewriteLegacyRow
    rw [same]
  unfold rewritten
  rw [step]

theorem hasTenantId_of_shopTable (nothingUnsafe : unsafeTables source = []) (nothingUnscoped : unscopedTables source = [])
    (member : t ∈ source) (shop : ShopTable t) (kept : isLitestreamTable t.name = false) : t.hasTenantId = true := by
  obtain ⟨unknown, notLike, -⟩ := shop
  have listed : t ∈ scanned source := by
    refine List.mem_filter.mpr ⟨member, ?_⟩
    rw [notLike, kept]
    rfl
  have simple : isSimpleIdentifier t.name = true := by
    by_contra notSimple
    have found : t.name ∈ unsafeTables source :=
      List.mem_map_of_mem (List.mem_filter.mpr ⟨listed, by rw [(Bool.not_eq_true _).mp notSimple]; rfl⟩)
    rw [nothingUnsafe] at found
    cases found
  by_contra unscoped
  have found : t.name ∈ unscopedTables source := by
    refine List.mem_map_of_mem (List.mem_filter.mpr ⟨listed, ?_⟩)
    rw [simple, (Bool.not_eq_true _).mp unscoped]
    simpa using unknown
  rw [nothingUnscoped] at found
  cases found

theorem Verified.dropped (v : Verified parse stringify source ids files) (found : table? source name = some t)
    (shop : ShopTable t) (replicated : isLitestreamTable t.name = true) (there : (id, file) ∈ files.tenants) :
    table? file name = none := by
  obtain ⟨report, built⟩ := v.shops id file there
  apply shop_dropped built
  refine List.any_eq_true.mpr ⟨t.name, ?_, sameName_symm (table?_name found)⟩
  refine List.mem_map_of_mem (List.mem_filter.mpr ⟨table?_mem found, ?_⟩)
  rw [shop.2.1, replicated, shop.2.2 replicated]
  rfl

theorem Verified.absent (v : Verified parse stringify source ids files) (absent : table? source name = none)
    (there : (id, file) ∈ files.tenants) : table? file name = none := by
  obtain ⟨report, built⟩ := v.shops id file there
  rcases inFile : table? file name with _ | t'
  · rfl
  · obtain ⟨t, rows, inSource, -⟩ := shop_table built inFile
    rw [absent] at inSource
    cases inSource

theorem Verified.undisturbed {filesA filesB : Files} {idsA idsB : List Value} {fileA fileB : Database}
    (v : Verified parse stringify a idsA filesA) (w : Verified parse stringify b idsB filesB) (same : SameForShop id a b)
    (inA : (id, fileA) ∈ filesA.tenants) (inB : (id, fileB) ∈ filesB.tenants)
    (shop : ∀ t, table? a name = some t → ShopTable t) : table? fileA name = table? fileB name := by
  have schema := same.schema name
  rcases foundA : table? a name with _ | t <;> rcases foundB : table? b name with _ | u <;> rewrite [foundA, foundB] at schema
  · rw [v.absent foundA inA, w.absent foundB inB]
  · cases schema
  · cases schema
  obtain ⟨sameName, sameColumns⟩ := Prod.mk.inj (Option.some.inj schema)
  have shopA := shop t foundA
  have shopB : ShopTable u := by
    unfold ShopTable
    rw [← sameName]
    exact shopA
  by_cases replicated : isLitestreamTable t.name = true
  · rw [v.dropped foundA shopA replicated inA, w.dropped foundB shopB (sameName ▸ replicated) inB]
  have kept := (Bool.not_eq_true _).mp replicated
  have scopedA := hasTenantId_of_shopTable v.nothingUnsafe v.nothingUnscoped (table?_mem foundA) shopA kept
  have scopedB := hasTenantId_of_shopTable w.nothingUnsafe w.nothingUnscoped (table?_mem foundB) shopB (sameName ▸ kept)
  by_cases subscriptions : t.name = "tenant_subscriptions"
  · rw [(v.platformOnly foundA (subscriptions ▸ List.mem_cons_self)).2 id fileA inA,
      (w.platformOnly foundB (sameName ▸ subscriptions ▸ List.mem_cons_self)).2 id fileB inB, sameName, sameColumns]
  have ordinary : t.name ∉ specialCasedTables := by
    intro special
    rcases List.mem_cons.mp special with tenants | last
    · exact shopA.1 (tenants ▸ List.mem_cons_self)
    · exact subscriptions (List.mem_singleton.mp last)
  have rows := (same.rows name t u foundA foundB shopA.1 shopA.2.1).1
  rw [v.shop foundA ⟨scopedA, shopA.2.1, ordinary, shopA.2.2⟩ inA,
    w.shop foundB ⟨scopedB, shopB.2.1, sameName ▸ ordinary, shopB.2.2⟩ inB, rewritten_same (platformUser_same same), rows,
    sameName, sameColumns]

end

section
variable (parse : Value → Option Json) (stringify : Json → String)
  (foreignKeyCheck : Database → List ForeignKeyViolationRow) (integrityCheck : Database → String)

/-- The split of the source was written, and reports ok. -/
def SplitsInto (source : Database) (files : Files) : Prop :=
  ∃ options report, options.source = some source ∧
    splitTenantDatabase parse stringify foreignKeyCheck integrityCheck options = .ok (report, some files) ∧ report.ok = true

/-- What a split that reports ok wrote: there is a file for each shop, once. Of a table that is split by shop, the platform's
file has the rows of no shop and a shop's file its own, which differ by the legacy rewrite at most, so that rows of listed
shops are in one file each. A table of the platform is in its file alone. And what other shops' rows are makes no
difference to a shop's file, in the tables that are the shop's. -/
theorem split_separates {source : Database} {files : Files}
    (split : SplitsInto parse stringify foreignKeyCheck integrityCheck source files) :
    (∃ registry, table? source "tenants" = some registry ∧
      (files.tenants.map (·.1)).Perm (registry.rows.map (registry.cell "id")) ∧ (files.tenants.map (·.1)).Nodup) ∧
    (∀ name t, table? source name = some t → SplitByShop t →
      table? files.platform name = some { t with rows := t.rows.filter (ofNoTenant t) } ∧
      (∀ id file, (id, file) ∈ files.tenants → ∃ rows, table? file name = some { t with rows := rows } ∧
        OnlyLegacy source t (t.rows.filter (ofTenant id t)) rows ∧
        (sameName t.name legacyImpersonatorTable = false → rows = t.rows.filter (ofTenant id t))) ∧
      ((∀ row ∈ t.rows, t.cell "tenant_id" row = .null ∨ t.cell "tenant_id" row ∈ files.tenants.map (·.1)) →
        t.rows.Perm (t.rows.filter (ofNoTenant t) ++
          (files.tenants.map (·.1)).flatMap fun id => t.rows.filter (ofTenant id t)))) ∧
    (∀ name t, table? source name = some t → t.name ∈ "tenant_subscriptions" :: platformOnlyTables →
      table? files.platform name = some t ∧
        ∀ id file, (id, file) ∈ files.tenants → table? file name = some { t with rows := [] }) ∧
    ∀ other otherFiles, SplitsInto parse stringify foreignKeyCheck integrityCheck other otherFiles →
      ∀ id, SameForShop id source other → ∀ file otherFile, (id, file) ∈ files.tenants → (id, otherFile) ∈ otherFiles.tenants →
        ∀ name, (∀ t, table? source name = some t → ShopTable t) → table? file name = table? otherFile name := by
  obtain ⟨options, report, opened, done, ok⟩ := split
  have v := verified opened done ok
  refine ⟨?_, ?_, fun name t found member => v.platformOnly found member, ?_⟩
  · obtain ⟨registry, opened, sorted⟩ := map_ok v.listed
    refine ⟨registry, openTable_ok opened, ?_, v.shopIds ▸ v.once⟩
    rw [v.shopIds, ← sorted]
    exact List.perm_insertionSort _ _
  · intro name t found byShop
    refine ⟨v.global found byShop, ?_, ?_⟩
    · intro id file there
      refine ⟨_, v.shop found byShop there, rewritten_onlyLegacy { t with rows := t.rows.filter (ofTenant id t) }, ?_⟩
      intro other
      apply if_neg
      rw [other]
      exact Bool.false_ne_true
    · intro listed
      rw [v.shopIds] at listed ⊢
      exact parts_perm v.once t listed
  · intro other otherFiles ⟨options', report', opened', done', ok'⟩ id same file otherFile inA inB name shop
    exact v.undisturbed (verified opened' done' ok') same inA inB shop

variable {parse stringify foreignKeyCheck integrityCheck}

theorem splitsInto_of {source : Database} {ids : List Value} {files : Files}
    {rewritten : List RewrittenLegacyImpersonatorRow} (listed : selectTenantIds source = .ok ids)
    (expected : unexpectedGlobalRows source = .ok []) (nothingUnsafe : unsafeTables source = [])
    (nothingUnscoped : unscopedTables source = []) (built : buildFiles parse stringify source ids = .ok (files, rewritten))
    (agree : (allFindings source files).map (fun findings => findings.filter fun f => f.expected ≠ f.actual) = .ok [])
    (sound : ∀ file, foreignKeyCheck file = [] ∧ integrityCheck file = "ok") :
    SplitsInto parse stringify foreignKeyCheck integrityCheck source files := by
  obtain ⟨findings, counted, agree⟩ := map_ok agree
  have passed : ∀ file, (checkFileIntegrity foreignKeyCheck integrityCheck file).failed = false := by
    intro file
    simp [FileCheck.failed, checkFileIntegrity, sound file]
  refine ⟨{ source := some source, write := true },
    writtenReport foreignKeyCheck integrityCheck source ids [] files rewritten findings, rfl, ?_, ?_⟩
  · simp [splitTenantDatabase, listed, expected, nothingUnsafe, nothingUnscoped, built, counted, Except.bind, Except.map]
  · simp only [writtenReport, plannedReport, agree, nothingUnsafe, nothingUnscoped, List.isEmpty_nil, Bool.and_true, Bool.true_and]
    rw [List.isEmpty_iff, List.filter_eq_nil_iff]
    intro check member
    obtain ⟨file, -, rfl⟩ := List.mem_map.mp member
    rw [passed file]
    exact Bool.false_ne_true

end

/-- Two shops, with one table of their own and three whose names are not an ordinary table's. -/
def shared (tenants : List Row) (sales : List Row) (sequence : ℚ) : Database :=
  [{ name := "tenants", columns := ["id"], rows := tenants },
    { name := "tenant_subscriptions", columns := ["tenant_id"], rows := [] },
    { name := "sales", columns := ["id", "tenant_id"], rows := sales },
    { name := "sqlitenotes", columns := ["id", "tenant_id"], rows := [[.number 1, .number 1]] },
    { name := "_litestream_a b", columns := ["id", "tenant_id"], rows := [[.number 1, .number 1]] },
    { name := "sqlite_sequence", columns := ["name", "seq"], rows := [[.text "sales", .number sequence]] }]

def twoShops : List Row := [[.number 1], [.number 2]]

/-- Also a sale of a shop that is not listed, which the sequence counts. -/
def unlisted : Database := shared twoShops [[.number 1, .number 1], [.number 2, .number 7]] 2

def ordinarySales : Database := shared twoShops [[.number 1, .number 1]] 1

def splitShared (sequence : ℚ) : Files where
  platform := shared twoShops [] sequence
  tenants :=
    [(.number 1, shared [[.number 1]] [[.number 1, .number 1]] sequence), (.number 2, shared [[.number 2]] [] sequence)]

theorem unlisted_splits : SplitsInto (fun _ => none) (fun _ => "") (fun _ => []) (fun _ => "ok") unlisted (splitShared 2) := by
  have listed : selectTenantIds unlisted = .ok [.number 1, .number 2] := by decide +kernel
  have built : buildFiles (fun _ => none) (fun _ => "") unlisted [.number 1, .number 2] = .ok (splitShared 2, []) := by
    decide +kernel
  exact splitsInto_of listed (by decide +kernel) (by decide +kernel) (by decide +kernel) built (by decide +kernel)
    fun _ => ⟨rfl, rfl⟩

theorem ordinarySales_splits :
    SplitsInto (fun _ => none) (fun _ => "") (fun _ => []) (fun _ => "ok") ordinarySales (splitShared 1) := by
  have listed : selectTenantIds ordinarySales = .ok [.number 1, .number 2] := by decide +kernel
  have built : buildFiles (fun _ => none) (fun _ => "") ordinarySales [.number 1, .number 2] = .ok (splitShared 1, []) := by
    decide +kernel
  exact splitsInto_of listed (by decide +kernel) (by decide +kernel) (by decide +kernel) built (by decide +kernel)
    fun _ => ⟨rfl, rfl⟩

theorem table?_shared (tenants sales : List Row) (sequence : ℚ) (name : String) : table? (shared tenants sales sequence) name =
    if sameName "tenants" name then some { name := "tenants", columns := ["id"], rows := tenants }
    else if sameName "tenant_subscriptions" name then some { name := "tenant_subscriptions", columns := ["tenant_id"], rows := [] }
    else if sameName "sales" name then some { name := "sales", columns := ["id", "tenant_id"], rows := sales }
    else if sameName "sqlitenotes" name then
      some { name := "sqlitenotes", columns := ["id", "tenant_id"], rows := [[.number 1, .number 1]] }
    else if sameName "_litestream_a b" name then
      some { name := "_litestream_a b", columns := ["id", "tenant_id"], rows := [[.number 1, .number 1]] }
    else if sameName "sqlite_sequence" name then
      some { name := "sqlite_sequence", columns := ["name", "seq"], rows := [[.text "sales", .number sequence]] }
    else none := by
  have first : ∀ (t : SqlTable) (rest : Database), table? (t :: rest) name = if sameName t.name name then some t else table? rest name := by
    intro t rest
    unfold table?
    rw [List.find?_cons]
    cases sameName t.name name
    · rfl
    · rfl
  unfold shared
  rw [first, first, first, first, first, first]
  rfl

theorem shared_same : SameForShop (.number 1) unlisted ordinarySales where
  schema name := by
    unfold unlisted ordinarySales
    rw [table?_shared, table?_shared]
    split_ifs
    · rfl
    · rfl
    · rfl
    · rfl
    · rfl
    · rfl
    · rfl
  rows name t u inA inB unknown notLike := by
    unfold unlisted at inA
    unfold ordinarySales at inB
    rw [table?_shared] at inA inB
    split_ifs at inA inB <;> cases inA <;> cases inB
    · exact absurd (by decide +kernel) unknown
    · decide +kernel
    · decide +kernel
    · decide +kernel
    · decide +kernel
    · exact absurd notLike (by decide +kernel)

/-- The sale of no listed shop is in no file, a table whose name only looks like SQLite's or the replication's goes to every
shop, and the sequence in a shop's file counts the rows of others. -/
theorem shared_not_separated :
    SplitsInto (fun _ => none) (fun _ => "") (fun _ => []) (fun _ => "ok") unlisted (splitShared 2) ∧
    SplitsInto (fun _ => none) (fun _ => "") (fun _ => []) (fun _ => "ok") ordinarySales (splitShared 1) ∧
    SameForShop (.number 1) unlisted ordinarySales ∧
    (∃ t ∈ unlisted, t.hasTenantId = true ∧ [.number 2, .number 7] ∈ t.rows) ∧
    (∀ file ∈ (splitShared 2).platform :: (splitShared 2).tenants.map (·.2), ∀ t ∈ file, [.number 2, .number 7] ∉ t.rows) ∧
    (∀ name ∈ ["sqlitenotes", "_litestream_a b"], ∃ file ∈ (splitShared 2).tenants, file.1 = .number 2 ∧
      ∃ t ∈ file.2, t.name = name ∧ ∃ row ∈ t.rows, t.cell "tenant_id" row = .number 1) ∧
    ∀ file ∈ (splitShared 2).tenants, ∀ file' ∈ (splitShared 1).tenants, file.1 = .number 1 → file'.1 = .number 1 →
      table? file.2 "sqlite_sequence" ≠ table? file'.2 "sqlite_sequence" := by
  exact ⟨unlisted_splits, ordinarySales_splits, shared_same, by decide +kernel, by decide +kernel, by decide +kernel,
    by decide +kernel⟩

theorem unlisted_sales_separated :
    table? (splitShared 2).platform "sales" = some { name := "sales", columns := ["id", "tenant_id"], rows := [] } ∧
      table? (shared [[.number 1]] [[.number 1, .number 1]] 2) "sales" =
        table? (shared [[.number 1]] [[.number 1, .number 1]] 1) "sales" := by
  have apart := split_separates _ _ _ _ unlisted_splits
  have sales : table? unlisted "sales" = some
      { name := "sales", columns := ["id", "tenant_id"], rows := [[.number 1, .number 1], [.number 2, .number 7]] } := by
    decide +kernel
  have ordinary : ShopTable
      { name := "sales", columns := ["id", "tenant_id"], rows := [[.number 1, .number 1], [.number 2, .number 7]] } :=
    ⟨by decide +kernel, by decide +kernel, by decide +kernel⟩
  refine ⟨?_, ?_⟩
  · have global := (apart.2.1 "sales" _ sales ⟨by decide +kernel, by decide +kernel, by decide +kernel, ordinary.2.2⟩).1
    exact global.trans (by decide +kernel)
  · apply apart.2.2.2 ordinarySales _ ordinarySales_splits _ shared_same _ _ List.mem_cons_self List.mem_cons_self
    intro t found
    cases sales.symm.trans found
    exact ordinary

end Liratek.Tenant.SplitSeparation

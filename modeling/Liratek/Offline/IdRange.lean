import Liratek.Lib.Calls
import Liratek.Offline.Channels
import Mathlib.Algebra.Group.Nat.Defs
import Mathlib.Data.List.Nodup

/-! The ids a PC gives offline: its number, the place of the table, and a counter. -/

namespace Liratek.Offline.IdRange
open Lib.Calls
open Channels (offlineIdFloor)

def tableStride : Nat := 1000000000

def offlinePcMin : Nat := 1

def offlinePcMax : Nat := 9006

def offlineTableIndexMax : Nat := 999

def offlineNMax : Nat := 999999999

/-- `Number.MAX_SAFE_INTEGER` -/
def maxSafeInteger : Nat := 2 ^ 53 - 1

/-- A table's place is part of every id ever given. -/
def offlineIdTables : List String :=
  ["tenants", "tenant_subscriptions", "email_outbox", "signup_invitations", "system_settings", "users",
    "user_invitations", "password_reset_tokens", "email_verification_tokens", "user_identities",
    "sso_handoff_tokens", "signin_codes", "signin_directory", "sessions", "transactions", "currencies",
    "exchange_rates", "clients", "suppliers", "products", "product_categories", "product_suppliers",
    "product_units", "sales", "sale_items", "debt_ledger", "customer_sessions", "customer_session_transactions",
    "session_cart_items", "supplier_ledger", "supplier_settlements", "settlement_commission_allocations",
    "supplier_purchases", "maintenance", "maintenance_parts", "maintenance_status_history", "expenses",
    "recharges", "exchange_transactions", "exchange_lots", "exchange_lot_settlements",
    "exchange_position_adjustments", "financial_services", "partners", "partner_ledger", "custom_services",
    "service_presets", "item_costs", "voucher_images", "mobile_service_items", "carrier_lines",
    "carrier_line_movements", "carrier_line_owed_deliveries", "payments", "drawer_topups", "drawer_cashouts",
    "wallet_exchanges", "drawer_transfers", "daily_closings", "daily_closing_amounts",
    "daily_closing_carrier_lines", "sync_queue", "sync_errors", "product_stock_batches",
    "stock_batch_consumptions", "payment_methods", "service_providers", "vouchers", "loto_tickets",
    "loto_monthly_fees", "loto_checkpoints", "loto_cash_prizes", "loto_settlements", "audit_log", "hold_money",
    "hold_money_pickups", "stock_adjustments", "warranty_claims", "defective_items", "supplier_returns",
    "idempotency_keys", "resale_lines", "resale_line_recharges", "wrong_number_cards",
    "supplier_settlement_coverage", "resale_line_give_backs", "checkpoint_differences",
    "checkpoint_difference_resolutions", "partner_settlement_coverage", "kpi_snapshots", "kpi_snapshot_values",
    "omt_owed_shares"]

structure DecodedOfflineId where
  pc : Nat
  tableIndex : Nat
  /-- `none` past the end of the list: a newer app -/
  table : Option String
  n : Nat
  deriving DecidableEq, Repr

structure RangeError where
  name : String
  value : Nat
  min : Nat
  max : Nat
  deriving DecidableEq, Repr

def RangeError.message (number : Nat → String) (e : RangeError) : String :=
  e.name ++ " must be an integer in " ++ number e.min ++ "…" ++ number e.max ++ " (got " ++ number e.value ++ ")"

def assertIntIn (name : String) (value min max : Nat) : Except RangeError Unit :=
  if value < min ∨ max < value then .error { name := name, value := value, min := min, max := max } else .ok ()

def offlineIdAt (pc tableIndex n : Nat) : Nat :=
  pc * offlineIdFloor + tableIndex * tableStride + n

theorem offlineIdAt_succ (pc tableIndex n : Nat) : offlineIdAt pc tableIndex n + 1 = offlineIdAt pc tableIndex (n + 1) :=
  Nat.add_assoc _ n 1

def encodeOfflineId (pc tableIndex n : Nat) : Except RangeError Nat :=
  (assertIntIn "PC number" pc offlinePcMin offlinePcMax).bind fun _ =>
    (assertIntIn "table index" tableIndex 0 offlineTableIndexMax).bind fun _ =>
      (assertIntIn "n" n 1 offlineNMax).map fun _ => offlineIdAt pc tableIndex n

def isOfflineId (v : Nat) : Bool :=
  v ≤ maxSafeInteger && Channels.isOfflineId v

def decodeOfflineId (v : Nat) : Option DecodedOfflineId :=
  if isOfflineId v then
    let pc := v / offlineIdFloor
    let rest := v - pc * offlineIdFloor
    let tableIndex := rest / tableStride
    some { pc := pc, tableIndex := tableIndex, table := offlineIdTables[tableIndex]?, n := rest - tableIndex * tableStride }
  else none

/-- A PC number and a table's place that are in range. -/
structure InRange (pc tableIndex : Nat) : Prop where
  pcMin : offlinePcMin ≤ pc
  pcMax : pc ≤ offlinePcMax
  tableIndexMax : tableIndex ≤ offlineTableIndexMax

theorem isOfflineId_iff {v : Nat} : isOfflineId v = true ↔ offlineIdFloor ≤ v ∧ v ≤ maxSafeInteger := by
  unfold isOfflineId Channels.isOfflineId
  rw [Bool.and_eq_true, decide_eq_true_iff, decide_eq_true_iff, and_comm]

theorem isOfflineId_at {pc tableIndex n : Nat} (inRange : InRange pc tableIndex) (below : n ≤ offlineNMax) :
    isOfflineId (offlineIdAt pc tableIndex n) = true := by
  have pcMin := inRange.pcMin
  have pcMax := inRange.pcMax
  have tableMax := inRange.tableIndexMax
  simp only [offlinePcMin, offlinePcMax, offlineTableIndexMax, offlineNMax] at pcMin pcMax tableMax below
  rw [isOfflineId_iff]
  simp only [offlineIdAt, offlineIdFloor, tableStride, maxSafeInteger]
  omega

/-- Every id in the layout, the first counter included, says what it is. -/
theorem decodeOfflineId_at {pc tableIndex n : Nat} (inRange : InRange pc tableIndex) (below : n ≤ offlineNMax) :
    decodeOfflineId (offlineIdAt pc tableIndex n) =
      some { pc := pc, tableIndex := tableIndex, table := offlineIdTables[tableIndex]?, n := n } := by
  have tableMax := inRange.tableIndexMax
  simp only [offlineTableIndexMax, offlineNMax] at tableMax below
  have pcPart : offlineIdAt pc tableIndex n / offlineIdFloor = pc := by
    simp only [offlineIdAt, offlineIdFloor, tableStride]
    omega
  have rest : offlineIdAt pc tableIndex n - pc * offlineIdFloor = tableIndex * tableStride + n := by
    simp only [offlineIdAt, offlineIdFloor, tableStride]
    omega
  have tablePart : (tableIndex * tableStride + n) / tableStride = tableIndex := by
    simp only [tableStride]
    omega
  have counter : tableIndex * tableStride + n - tableIndex * tableStride = n := by omega
  simp only [decodeOfflineId, isOfflineId_at inRange below, if_pos, pcPart, rest, tablePart, counter]

theorem assertIntIn_ok {name : String} {value min max : Nat} {u : Unit} (done : assertIntIn name value min max = .ok u) :
    min ≤ value ∧ value ≤ max := by
  unfold assertIntIn at done
  split_ifs at done with outside
  rw [not_or] at outside
  omega

theorem encodeOfflineId_ok {pc tableIndex n id : Nat} (done : encodeOfflineId pc tableIndex n = .ok id) :
    InRange pc tableIndex ∧ 1 ≤ n ∧ n ≤ offlineNMax ∧ id = offlineIdAt pc tableIndex n := by
  obtain ⟨_, pcRange, done⟩ := bind_ok done
  obtain ⟨_, tableRange, done⟩ := bind_ok done
  obtain ⟨_, counterRange, rfl⟩ := map_ok done
  obtain ⟨pcMin, pcMax⟩ := assertIntIn_ok pcRange
  obtain ⟨-, tableMax⟩ := assertIntIn_ok tableRange
  obtain ⟨some, below⟩ := assertIntIn_ok counterRange
  exact ⟨⟨pcMin, pcMax, tableMax⟩, some, below, rfl⟩

theorem encodeOfflineId_at {pc tableIndex n : Nat} (inRange : InRange pc tableIndex) (some : 1 ≤ n)
    (below : n ≤ offlineNMax) : encodeOfflineId pc tableIndex n = .ok (offlineIdAt pc tableIndex n) := by
  have pcMin := inRange.pcMin
  have pcMax := inRange.pcMax
  have tableMax := inRange.tableIndexMax
  unfold encodeOfflineId assertIntIn
  rw [if_neg (by omega), if_neg (by omega), if_neg (by omega)]
  rfl

/-- An id that can be given decodes to what it was given for. -/
theorem decode_encode {pc tableIndex n id : Nat} (done : encodeOfflineId pc tableIndex n = .ok id) :
    decodeOfflineId id =
      some { pc := pc, tableIndex := tableIndex, table := offlineIdTables[tableIndex]?, n := n } := by
  obtain ⟨inRange, -, below, rfl⟩ := encodeOfflineId_ok done
  exact decodeOfflineId_at inRange below

def offlineTableIndex (table : String) : Option Nat :=
  offlineIdTables.idxOf? table

theorem offlineIdTables_nodup : offlineIdTables.Nodup := by
  decide +kernel

theorem offlineTableIndex_get {table : String} {tableIndex : Nat} (found : offlineTableIndex table = some tableIndex) :
    offlineIdTables[tableIndex]? = some table := by
  obtain ⟨inside, here, -⟩ := List.idxOf?_eq_some_iff.mp found
  rw [List.getElem?_eq_getElem inside, here]

theorem offlineTableIndex_le {table : String} {tableIndex : Nat} (found : offlineTableIndex table = some tableIndex) :
    tableIndex ≤ offlineTableIndexMax := by
  obtain ⟨inside, -, -⟩ := List.idxOf?_eq_some_iff.mp found
  have few : offlineIdTables.length ≤ offlineTableIndexMax := by decide
  omega

theorem decodeOfflineId_table {pc tableIndex n : Nat} {table : String} (inRange : InRange pc tableIndex)
    (found : offlineTableIndex table = some tableIndex) (below : n ≤ offlineNMax) :
    decodeOfflineId (offlineIdAt pc tableIndex n) =
      some { pc := pc, tableIndex := tableIndex, table := some table, n := n } := by
  have decoded := decodeOfflineId_at inRange below
  rw [offlineTableIndex_get found] at decoded
  exact decoded

end Liratek.Offline.IdRange

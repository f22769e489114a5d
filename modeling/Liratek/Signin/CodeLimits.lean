import Liratek.Lib.Windows
import Liratek.Signin.CodeRuns
import Mathlib.Algebra.Order.BigOperators.Group.List
import Mathlib.Data.List.Perm.Subperm

/-! How many codes an address is sent, and how many wrong tries they take, whatever the cleanup deletes. -/

namespace Liratek.Signin.CodeLimits
open Lib Lib.Calls Lib.Runs Lib.Windows Email SigninCodes CodeRuns

def issues (log : List Event) : List (ℕ × IssuedCode) :=
  log.filterMap fun | .issued id code => some (id, code) | _ => none

def codesOf (email : String) (log : List Event) : List (ℕ × IssuedCode) :=
  (issues log).filter fun entry => entry.2.email = email

def timesOf (email : String) (log : List Event) : List ℤ :=
  (codesOf email log).map (·.2.createdAt)

theorem mem_issues {log : List Event} {id : ℕ} {code : IssuedCode} : (id, code) ∈ issues log ↔ .issued id code ∈ log := by
  unfold issues
  rw [List.mem_filterMap]
  constructor
  · rintro ⟨event, member, same⟩
    cases event with
    | issued i c =>
      cases Option.some.inj same
      exact member
    | tried => cases same
    | swept => cases same
  · exact fun member => ⟨_, member, rfl⟩

theorem issues_nodup {log : List Event} (lawful : Lawful log) : ((issues log).map (·.1)).Nodup := by
  induction log with
  | nil => exact List.nodup_nil
  | cons event rest ih =>
    cases event with
    | tried => exact ih lawful.2
    | swept => exact ih lawful
    | issued id code =>
      apply List.nodup_cons.mpr
      refine ⟨fun member => ?_, ih lawful.2⟩
      obtain ⟨⟨i, c⟩, again, rfl⟩ := List.mem_map.mp member
      exact lt_irrefl _ (lawful.1 i c (mem_issues.mp again))

/-- A code that the cleanup has deleted. -/
def Swept (log : List Event) (code : IssuedCode) : Prop :=
  ∃ t, .swept t ∈ log ∧ expiryOf code.createdAt < t - authTokenPurgeGraceMs

/-- No request runs on a clock that is behind a sweep by the grace less the window. -/
def InGrace (s : System) : Action → Prop
  | .requestCode params _ => ∀ t, .swept t ∈ s.log → t - (authTokenPurgeGraceMs - signinCodePerEmailWindowMs) ≤ params.now
  | _ => True

def sweeps (log : List Event) : List ℤ :=
  log.filterMap fun | .swept t => some t | _ => none

theorem mem_sweeps {log : List Event} {t : ℤ} : t ∈ sweeps log ↔ .swept t ∈ log := by
  unfold sweeps
  rw [List.mem_filterMap]
  constructor
  · rintro ⟨event, member, same⟩
    cases event with
    | swept t' =>
      cases Option.some.inj same
      exact member
    | issued => cases same
    | tried => cases same
  · exact fun member => ⟨_, member, rfl⟩

instance decidableInGrace (s : System) : (action : Action) → Decidable (InGrace s action)
  | .requestCode params _ =>
    decidable_of_iff (∀ t ∈ sweeps s.log, t - (authTokenPurgeGraceMs - signinCodePerEmailWindowMs) ≤ params.now)
      ⟨fun each t swept => each t (mem_sweeps.mpr swept), fun each t member => each t (mem_sweeps.mp member)⟩
  | .verifyCode .. | .sweepCodes _ | .directory _ | .mail .. => .isTrue trivial

structure Limited (s : System) : Prop where
  there : ∀ id code, .issued id code ∈ s.log → (∃ row, s.codes.get id = some row ∧ issuedCode row = code) ∨ Swept s.log code
  admitted : ∀ email, Admitted signinCodePerEmailLimit signinCodePerEmailWindowMs (timesOf email s.log)

section
variable {hashToken normalizeEmail : String → String} {formatInviteExpiry : ℤ → String}
  {renderTemplate : String → Outbox.EmailTemplateData → Except String Unit} {otherSecretKeys secrets : List String} {s : System}

/-- The table counts every code of the window: the cleanup has deleted none of them. -/
theorem countP_le_countForEmailSince (lawful : Lawful s.log) (limited : Limited s) (email : String) {now : ℤ}
    (inGrace : ∀ t, .swept t ∈ s.log → t - (authTokenPurgeGraceMs - signinCodePerEmailWindowMs) ≤ now) :
    (timesOf email s.log).countP (now - signinCodePerEmailWindowMs ≤ ·) ≤
      countForEmailSince s.codes email (now - signinCodePerEmailWindowMs) := by
  have counted : (timesOf email s.log).countP (now - signinCodePerEmailWindowMs ≤ ·) =
      (((codesOf email s.log).filter fun entry => now - signinCodePerEmailWindowMs ≤ entry.2.createdAt).map (·.1)).length := by
    unfold timesOf
    rw [List.countP_map, List.length_map, List.countP_eq_length_filter]
    rfl
  rw [counted]
  unfold countForEmailSince
  have byId (rows : List (ℕ × SigninCodeRow)) : rows.length = (rows.map (·.1)).length := (List.length_map _).symm
  rw [byId]
  apply List.Subperm.length_le
  apply List.Nodup.subperm
  · refine (issues_nodup lawful).sublist (List.Sublist.map _ ?_)
    exact List.filter_sublist.trans List.filter_sublist
  · intro id member
    obtain ⟨⟨i, code⟩, chosen, rfl⟩ := List.mem_map.mp member
    obtain ⟨ofEmail, since⟩ := List.mem_filter.mp chosen
    obtain ⟨issued, isEmail⟩ := List.mem_filter.mp ofEmail
    have since' := of_decide_eq_true since
    rcases limited.there i code (mem_issues.mp issued) with ⟨row, found, rfl⟩ | ⟨t, swept, expired⟩
    · refine List.mem_map.mpr ⟨(i, row), Table.mem_select.mpr ⟨found, ?_⟩, rfl⟩
      exact Bool.and_eq_true_iff.mpr ⟨isEmail, decide_eq_true since'⟩
    · -- deleted long before the window
      have behind := inGrace t swept
      have positive : (0 : ℤ) ≤ signinCodeTtlMinutes * 60000 := by decide
      unfold expiryOf at expired
      dsimp only at since'
      linarith

theorem Swept.grow {log log' : List Event} {code : IssuedCode} (swept : Swept log code) (grows : log ⊆ log') : Swept log' code := by
  obtain ⟨t, member, expired⟩ := swept
  exact ⟨t, grows member, expired⟩

/-- Every code that was there is still there, or deleted. -/
theorem Limited.there_of {s' : System} (limited : Limited s) (grows : s.log ⊆ s'.log)
    (issued : ∀ id code, .issued id code ∈ s'.log → .issued id code ∈ s.log ∨ ∃ row, s'.codes.get id = some row ∧ issuedCode row = code)
    (rows : ∀ id row, s.codes.get id = some row →
      (∃ row', s'.codes.get id = some row' ∧ issuedCode row' = issuedCode row) ∨ Swept s'.log (issuedCode row))
    (id : ℕ) (code : IssuedCode) (member : .issued id code ∈ s'.log) :
    (∃ row, s'.codes.get id = some row ∧ issuedCode row = code) ∨ Swept s'.log code := by
  rcases issued id code member with earlier | new
  · rcases limited.there id code earlier with ⟨row, found, rfl⟩ | swept
    · exact rows id row found
    · exact .inr (swept.grow grows)
  · exact .inl new

theorem issue_ok {s' : System} {email code : String} {params : RequestSigninCodeParams}
    (done : s.issue hashToken normalizeEmail formatInviteExpiry email code params = .ok s') :
    ∃ m data, s'.codes = linkOutbox (createCode (invalidateForEmail s.codes email params.now) data) s.codes.nextId m ∧
      data.email = email ∧ data.now = params.now ∧
      s'.log = .issued s.codes.nextId { email, codeHash := data.codeHash, createdAt := params.now } :: s.log := by
  have sameId : (invalidateForEmail s.codes email params.now).nextId = s.codes.nextId := Table.nextId_updateWhere ..
  unfold System.issue at done
  dsimp only at done
  rw [sameId] at done
  split at done
  · cases done
  · next m _ _ =>
    cases done
    exact ⟨m, _, rfl, rfl, rfl, rfl⟩

theorem issue_limited {s' : System} {email code : String} {params : RequestSigninCodeParams} (kept : Kept otherSecretKeys s)
    (limited : Limited s) (inGrace : ∀ t, .swept t ∈ s.log → t - (authTokenPurgeGraceMs - signinCodePerEmailWindowMs) ≤ params.now)
    (below : countForEmailSince s.codes email (params.now - signinCodePerEmailWindowMs) < signinCodePerEmailLimit)
    (done : s.issue hashToken normalizeEmail formatInviteExpiry email code params = .ok s') : Limited s' := by
  have sameId : (invalidateForEmail s.codes email params.now).nextId = s.codes.nextId := Table.nextId_updateWhere ..
  obtain ⟨m, data, codes, isEmail, isNow, log⟩ := issue_ok done
  refine ⟨limited.there_of (log ▸ List.subset_cons_self _ _) (fun id issued member => ?_) fun id row found => ?_, fun other => ?_⟩
  · rw [log] at member
    rcases List.mem_cons.mp member with here | earlier
    · cases here
      have new : s'.codes.get s.codes.nextId = some
          { email := data.email, codeHash := data.codeHash, expiresAt := data.expiresAt, requestedIpHash := data.requestedIpHash
            createdAt := data.now, emailOutboxId := some m } := by
        rw [codes, linkOutbox, createCode, Table.get_update_self, ← sameId, Table.get_insert_self]
        rfl
      refine .inr ⟨_, new, ?_⟩
      rw [issuedCode, isEmail, isNow]
    · exact .inl earlier
  · left
    have old : id ≠ s.codes.nextId := (Table.get_lt found).ne
    rw [codes, linkOutbox, createCode, Table.get_update_of_ne _ _ old, Table.get_insert_of_ne _ _ (sameId.symm ▸ old), invalidateForEmail,
      Table.get_updateWhere, found, Option.map_some]
    refine ⟨_, rfl, ?_⟩
    split_ifs <;> rfl
  · rw [log]
    by_cases isIt : email = other
    · rw [← isIt]
      have times : timesOf email (.issued s.codes.nextId { email, codeHash := data.codeHash, createdAt := params.now } :: s.log) =
          params.now :: timesOf email s.log := by
        simp [timesOf, codesOf, issues]
      rw [times]
      exact ⟨lt_of_le_of_lt (countP_le_countForEmailSince kept.lawful limited email inGrace) below, limited.admitted email⟩
    · have times : timesOf other (.issued s.codes.nextId { email, codeHash := data.codeHash, createdAt := params.now } :: s.log) =
          timesOf other s.log := by
        simp [timesOf, codesOf, issues, isIt]
      rw [times]
      exact limited.admitted other

/-- A try changes no code that was sent. -/
theorem tried_limited {codeHash : String} {now : ℤ} {id : ℕ} {accepted : Bool} {change : SigninCodeRow → SigninCodeRow}
    (limited : Limited s) (changes : ∀ row, issuedCode (change row) = issuedCode row) :
    Limited { s with
      codes := (s.codes.updateIf id (usableCodeWhere now) change).1, log := .tried id codeHash now accepted :: s.log } := by
  refine ⟨limited.there_of (List.subset_cons_self _ _) (fun i code member => ?_) fun i row found => ?_, limited.admitted⟩
  · exact .inl ((List.mem_cons.mp member).resolve_left fun impossible => by cases impossible)
  · left
    dsimp only
    by_cases isIt : i = id
    · rw [isIt, Table.updateIf_self, ← isIt, found, Option.map_some]
      refine ⟨_, rfl, ?_⟩
      split_ifs
      · exact changes row
      · rfl
    · exact ⟨row, (Table.updateIf_other isIt).trans found, rfl⟩

theorem exec_limited (kept : Kept otherSecretKeys s) (limited : Limited s) {action : Action} (inGrace : InGrace s action) :
    Limited (exec hashToken normalizeEmail formatInviteExpiry renderTemplate otherSecretKeys secrets s action) := by
  cases action with
  | requestCode params code =>
    apply leaves_invariant limited
    intro s' done
    obtain ⟨⟨after, reason⟩, requested, rfl⟩ := map_ok done
    unfold System.requestCode at requested
    dsimp only at requested
    split_ifs at requested with _ _ reached
    · cases requested
      exact limited
    · cases requested
      exact limited
    · cases requested
      exact limited
    · obtain ⟨issued, isIssued, same⟩ := map_ok requested
      cases same
      exact issue_limited kept limited inGrace (not_le.mp reached) isIssued
  | verifyCode email code now =>
    dsimp only [exec, System.verifyCode]
    split
    · exact limited
    · split_ifs
      · exact tried_limited limited fun _ => rfl
      · exact limited
      · exact tried_limited limited fun _ => rfl
  | sweepCodes now =>
    refine ⟨limited.there_of (List.subset_cons_self _ _) (fun i code member => ?_) fun i row found => ?_, limited.admitted⟩
    · exact .inl ((List.mem_cons.mp member).resolve_left fun impossible => by cases impossible)
    · dsimp only [exec, System.sweepCodes, deleteExpiredBefore]
      rw [Table.get_deleteWhere, found]
      by_cases expired : row.expiresAt < now - authTokenPurgeGraceMs
      · refine .inr ⟨now, List.mem_cons_self, ?_⟩
        rw [issuedCode, ← (kept.rows i row found).expiresAt]
        exact expired
      · exact .inl ⟨row, by simp [expired], rfl⟩
  | directory => exact ⟨limited.there, limited.admitted⟩
  | mail => exact ⟨limited.there, limited.admitted⟩

theorem limited_empty : Limited {} where
  there _ _ member := by cases member
  admitted _ := trivial

end

/-- The codes of an address in a window that starts at `first`. -/
def codesIn (email : String) (first : ℤ) (log : List Event) : List (ℕ × IssuedCode) :=
  (codesOf email log).filter fun entry => first ≤ entry.2.createdAt ∧ entry.2.createdAt ≤ first + signinCodePerEmailWindowMs

/-- No window holds more codes of an address than the limit, whatever the cleanup deletes, and so many codes take no more than the
limit of wrong tries for each. -/
theorem run_limited (hashToken normalizeEmail : String → String) (formatInviteExpiry : ℤ → String)
    (renderTemplate : String → Outbox.EmailTemplateData → Except String Unit) (otherSecretKeys secrets : List String)
    (actions : List Action)
    (inGrace : Meets (exec hashToken normalizeEmail formatInviteExpiry renderTemplate otherSecretKeys secrets) InGrace {} actions)
    (email : String) (first : ℤ) :
    let s := run (exec hashToken normalizeEmail formatInviteExpiry renderTemplate otherSecretKeys secrets) {} actions
    (codesIn email first s.log).length ≤ signinCodePerEmailLimit ∧
      ((codesIn email first s.log).map fun entry => wrongTries entry.1 s.log).sum ≤ signinCodePerEmailLimit * signinCodeMaxAttempts := by
  intro s
  have keeps (s : System) (action : Action) (holds : Kept otherSecretKeys s ∧ Limited s) (inGrace : InGrace s action) :
      Kept otherSecretKeys (exec hashToken normalizeEmail formatInviteExpiry renderTemplate otherSecretKeys secrets s action) ∧
        Limited (exec hashToken normalizeEmail formatInviteExpiry renderTemplate otherSecretKeys secrets s action) :=
    ⟨exec_kept holds.1 action, exec_limited holds.1 holds.2 inGrace⟩
  obtain ⟨kept, limited⟩ : Kept otherSecretKeys s ∧ Limited s := run_invariant keeps ⟨kept_empty, limited_empty⟩ inGrace
  have few : (codesIn email first s.log).length ≤ signinCodePerEmailLimit := by
    have within' := (limited.admitted email).within_le first
    unfold within timesOf at within'
    rw [List.countP_map, List.countP_eq_length_filter] at within'
    exact within'
  refine ⟨few, ?_⟩
  calc
    _ ≤ (codesIn email first s.log).length • signinCodeMaxAttempts := by
      rw [← List.length_map fun entry : ℕ × IssuedCode => wrongTries entry.1 s.log]
      apply List.sum_le_card_nsmul
      intro tries member
      obtain ⟨entry, -, rfl⟩ := List.mem_map.mp member
      exact wrongTries_le kept.lawful entry.1
    _ ≤ signinCodePerEmailLimit * signinCodeMaxAttempts := Nat.mul_le_mul_right _ few

/-! One code is asked for and, eight days later, deleted; then six are asked for in six minutes, each tried six times with a wrong one. -/

def eightDays : ℤ := 8 * 24 * 60 * 60 * 1000

def busyHour : List Action :=
  let ask (now : ℤ) : Action :=
    .requestCode { email := "owner@shop", now, emailConfigured := true, supportEmail := "", requesterIp := none } "123456"
  [.directory fun _ => [{ tenantId := 1, slug := "shop", shopName := "Shop", userId := 1, username := "owner" }], ask 0, .sweepCodes eightDays] ++
    (List.range 6).flatMap fun minute =>
      ask (eightDays + 60000 * minute) :: List.replicate 6 (.verifyCode "owner@shop" "000000" (eightDays + 60000 * minute))

/-- The limits are reached: five codes and twenty-five wrong tries. -/
theorem run_limited_swept :
    let s := run (exec id id (fun _ => "") (fun _ _ => .ok ()) [] []) {} busyHour
    ((codesIn "owner@shop" eightDays s.log).length ≤ signinCodePerEmailLimit ∧
      ((codesIn "owner@shop" eightDays s.log).map fun entry => wrongTries entry.1 s.log).sum ≤ signinCodePerEmailLimit * signinCodeMaxAttempts) ∧
      s.codes.get 0 = none ∧ (codesIn "owner@shop" eightDays s.log).length = 5 ∧
      ((codesIn "owner@shop" eightDays s.log).map fun entry => wrongTries entry.1 s.log).sum = 25 :=
  ⟨run_limited id id (fun _ => "") (fun _ _ => .ok ()) [] [] busyHour (by decide +kernel) "owner@shop" eightDays, by decide +kernel,
    by decide +kernel, by decide +kernel⟩

end Liratek.Signin.CodeLimits

import Liratek.Signin.SigninCodes

/-! Whole runs of sign-in codes: a code is used once and in its time, only while it is the last of its address, and five wrong tries
lock it. Its email is never sent after its time. -/

namespace Liratek.Signin.CodeRuns
open Lib Lib.Calls Lib.Runs Email SigninCodes

def isWrongTry (id : ℕ) : Event → Bool
  | .tried i _ _ accepted => i = id && !accepted
  | _ => false

def wrongTries (id : ℕ) (log : List Event) : ℕ :=
  log.countP (isWrongTry id)

def isRightTry (id : ℕ) : Event → Bool
  | .tried i _ _ accepted => i = id && accepted
  | _ => false

/-- What a code must be when a typed one is compared with it. -/
structure Open (log : List Event) (id : ℕ) (now : ℤ) (code : IssuedCode) : Prop where
  issued : .issued id code ∈ log
  inTime : now < expiryOf code.createdAt
  last : ∀ id' code', .issued id' code' ∈ log → code'.email = code.email → id' ≤ id
  unused : ∀ codeHash t, .tried id codeHash t true ∉ log
  unlocked : wrongTries id log < signinCodeMaxAttempts

def Lawful : List Event → Prop
  | [] => True
  | .issued id _ :: rest => (∀ id' code', .issued id' code' ∈ rest → id' < id) ∧ Lawful rest
  | .tried id codeHash now accepted :: rest =>
    (∃ code, Open rest id now code ∧ (accepted = true ↔ codeHash = code.codeHash)) ∧ Lawful rest
  | .swept _ :: rest => Lawful rest

theorem wrongTries_le {log : List Event} (lawful : Lawful log) (id : ℕ) : wrongTries id log ≤ signinCodeMaxAttempts := by
  induction log with
  | nil => exact Nat.zero_le _
  | cons event rest ih =>
    unfold wrongTries at *
    rw [List.countP_cons]
    cases event with
    | issued i code => simpa [isWrongTry] using ih lawful.2
    | swept now => simpa [isWrongTry] using ih lawful
    | tried i codeHash now accepted =>
      obtain ⟨⟨code, isOpen, -⟩, lawfulRest⟩ := lawful
      by_cases wrong : isWrongTry id (.tried i codeHash now accepted) = true
      · have isIt : i = id := of_decide_eq_true (Bool.and_eq_true_iff.mp wrong).1
        rw [if_pos wrong, ← isIt]
        exact isOpen.unlocked
      · rw [if_neg wrong]
        exact ih lawfulRest

/-- A code is accepted once. -/
theorem rightTries_le {log : List Event} (lawful : Lawful log) (id : ℕ) : log.countP (isRightTry id) ≤ 1 := by
  induction log with
  | nil => exact Nat.zero_le _
  | cons event rest ih =>
    rw [List.countP_cons]
    cases event with
    | issued i code => simpa [isRightTry] using ih lawful.2
    | swept now => simpa [isRightTry] using ih lawful
    | tried i codeHash now accepted =>
      obtain ⟨⟨code, isOpen, -⟩, lawfulRest⟩ := lawful
      split_ifs with here
      · obtain ⟨isIt, -⟩ := Bool.and_eq_true_iff.mp here
        have none : rest.countP (isRightTry id) = 0 := by
          apply List.countP_eq_zero.mpr
          intro event member again
          cases event with
          | issued => cases again
          | swept => cases again
          | tried i' codeHash' now' accepted' =>
            obtain ⟨isIt', accepts⟩ := Bool.and_eq_true_iff.mp again
            rw [of_decide_eq_true isIt', accepts, ← of_decide_eq_true isIt] at member
            exact isOpen.unused _ _ member
        rw [none]
      · exact ih lawfulRest

theorem codeKey_injective : Function.Injective codeKey := by
  intro id id' same
  have digits : (Nat.toDigits 10 id) = Nat.toDigits 10 id' := by
    have lists := congrArg String.toList same
    unfold codeKey at lists
    rw [String.toList_append, String.toList_append, Nat.toList_repr, Nat.toList_repr] at lists
    exact List.append_cancel_left lists
  rw [← Nat.ofDigitChars_ten_toDigits (n := id), digits, Nat.ofDigitChars_ten_toDigits]

section
variable {hashToken normalizeEmail : String → String} {formatInviteExpiry : ℤ → String}
  {renderTemplate : String → Outbox.EmailTemplateData → Except String Unit} {otherSecretKeys secrets : List String} {s : System}

/-- The email of a code. -/
structure CodeEmail (id : ℕ) (code : IssuedCode) (row : Outbox.EmailRow) : Prop where
  key : row.idempotencyKey = codeKey id
  toEmail : row.toEmail = code.email
  giveUpAt : row.giveUpAt = expiryOf code.createdAt

def issuedCode (row : SigninCodeRow) : IssuedCode :=
  { email := row.email, codeHash := row.codeHash, createdAt := row.createdAt }

structure RowKept (s : System) (id : ℕ) (row : SigninCodeRow) : Prop where
  issued : .issued id (issuedCode row) ∈ s.log
  expiresAt : row.expiresAt = expiryOf row.createdAt
  attempts : row.attempts = wrongTries id s.log
  last : row.usedAt = none → ∀ id' code', .issued id' code' ∈ s.log → code'.email = row.email → id' ≤ id
  unused : row.usedAt = none → ∀ codeHash t, .tried id codeHash t true ∉ s.log
  linked : ∃ m mailRow, row.emailOutboxId = some m ∧ s.mail.outbox.get m = some mailRow ∧ mailRow.idempotencyKey = codeKey id

variable (otherSecretKeys) in
structure Kept (s : System) : Prop where
  lawful : Lawful s.log
  fresh : ∀ id code, .issued id code ∈ s.log → id < s.codes.nextId
  rows : ∀ id row, s.codes.get id = some row → RowKept s id row
  emails : ∀ id code, .issued id code ∈ s.log → ∃ m row, s.mail.outbox.get m = some row ∧ CodeEmail id code row
  keys : ∀ m row id, s.mail.outbox.get m = some row → row.idempotencyKey = codeKey id → ∃ code, .issued id code ∈ s.log
  outbox : OutboxRuns.Kept (secretDataKeys otherSecretKeys) s.mail

theorem kept_empty : Kept otherSecretKeys {} where
  lawful := trivial
  fresh _ _ member := by cases member
  rows _ _ found := by cases found
  emails _ _ member := by cases member
  keys _ _ _ found := by cases found
  outbox := OutboxRuns.kept_empty

/-! The outbox at work. -/

theorem mail_kept (kept : Kept otherSecretKeys s) {action : Outbox.Action}
    (other : ∀ data, action = .enqueue data → ∀ id, data.idempotencyKey ≠ codeKey id) :
    Kept otherSecretKeys { s with mail := Outbox.exec renderTemplate (secretDataKeys otherSecretKeys) secrets s.mail action } := by
  obtain ⟨outbox, later⟩ : OutboxRuns.Kept (secretDataKeys otherSecretKeys)
        (Outbox.exec renderTemplate (secretDataKeys otherSecretKeys) secrets s.mail action) ∧
      OutboxRuns.Later s.mail (Outbox.exec renderTemplate (secretDataKeys otherSecretKeys) secrets s.mail action) :=
    OutboxRuns.exec_keeps kept.outbox action
  refine ⟨kept.lawful, kept.fresh, fun id row found => ?_, fun id code issued => ?_, ?_, outbox⟩
  · have before := kept.rows id row found
    obtain ⟨m, mailRow, linked, there, key⟩ := before.linked
    obtain ⟨row', there', same, -⟩ := later.rows m mailRow there
    exact { before with linked := ⟨m, row', linked, there', same.key.trans key⟩ }
  · obtain ⟨m, row, there, email⟩ := kept.emails id code issued
    obtain ⟨row', there', same, -⟩ := later.rows m row there
    exact ⟨m, row', there', same.key.trans email.key, same.toEmail.trans email.toEmail, same.giveUpAt.trans email.giveUpAt⟩
  · intro m row id there key
    cases action with
    | enqueue data =>
      rcases OutboxRuns.enqueue_get there with old | ⟨-, isKey, -⟩
      · exact kept.keys m row id old key
      · exact absurd (isKey.symm.trans key) (other data rfl id)
    | start | next | answered | finish | scrub | abandon =>
      obtain ⟨before, was, same⟩ := OutboxRuns.rel_right (OutboxRuns.exec_edits s.mail (by intro _ isEnqueue; cases isEnqueue) m) there
      exact kept.keys m before id was (same.key.symm.trans key)

/-! A new code. -/

theorem get_invalidateForEmail {codes : Table SigninCodeRow} {email : String} {now : ℤ} {id : ℕ} {row' : SigninCodeRow}
    (is : (invalidateForEmail codes email now).get id = some row') :
    ∃ row, codes.get id = some row ∧
      (row' = row ∧ (row.usedAt = none → row.email ≠ email) ∨ row' = { row with usedAt := some now }) := by
  unfold invalidateForEmail at is
  rw [Table.get_updateWhere] at is
  obtain ⟨row, was, changed⟩ := Option.map_eq_some_iff.mp is
  refine ⟨row, was, ?_⟩
  split_ifs at changed with chosen
  · exact .inr changed.symm
  · refine .inl ⟨changed.symm, fun unused isIt => chosen ?_⟩
    rw [isIt, unused]
    simp

/-- The row of a key that was free. -/
theorem enqueue_free (o : Table Outbox.EmailRow) (data : Outbox.EnqueueEmailData)
    (free : ∀ m row, o.get m = some row → row.idempotencyKey ≠ data.idempotencyKey) :
    ∃ m row, Outbox.findByIdempotencyKey (Outbox.enqueue o data) data.idempotencyKey = some (m, row) ∧
      (Outbox.enqueue o data).get m = some row ∧ row.idempotencyKey = data.idempotencyKey ∧ row.toEmail = data.toEmail ∧
      row.giveUpAt = data.giveUpAt := by
  have none : o.select (fun row => row.idempotencyKey = data.idempotencyKey) = [] := by
    apply List.eq_nil_iff_forall_not_mem.mpr
    rintro ⟨m, row⟩ member
    obtain ⟨there, isKey⟩ := Table.mem_select.mp member
    exact free m row there (of_decide_eq_true isKey)
  have isFree : Outbox.hasKey o data.idempotencyKey = false := by simp [Outbox.hasKey, none]
  unfold Outbox.enqueue Outbox.findByIdempotencyKey
  rw [isFree, if_neg Bool.false_ne_true, Table.select_insert, none, if_pos (decide_eq_true rfl)]
  exact ⟨o.nextId, _, rfl, Table.get_insert_self o _, rfl, rfl, rfl⟩

theorem Kept.key_free (kept : Kept otherSecretKeys s) (m : ℕ) (row : Outbox.EmailRow) (there : s.mail.outbox.get m = some row) :
    row.idempotencyKey ≠ codeKey s.codes.nextId := by
  intro isKey
  obtain ⟨code, issued⟩ := kept.keys m row _ there isKey
  exact lt_irrefl _ (kept.fresh _ code issued)

theorem tried_issued {log : List Event} (lawful : Lawful log) {id : ℕ} {codeHash : String} {t : ℤ} {accepted : Bool}
    (member : .tried id codeHash t accepted ∈ log) : ∃ code, .issued id code ∈ log := by
  induction log with
  | nil => cases member
  | cons event rest ih =>
    rcases List.mem_cons.mp member with rfl | earlier
    · obtain ⟨⟨code, isOpen, -⟩, -⟩ := lawful
      exact ⟨code, List.mem_cons_of_mem _ isOpen.issued⟩
    · have lawfulRest : Lawful rest := by
        cases event with
        | swept => exact lawful
        | issued => exact lawful.2
        | tried => exact lawful.2
      obtain ⟨code, issued⟩ := ih lawfulRest earlier
      exact ⟨code, List.mem_cons_of_mem _ issued⟩

/-- A code that was never sent was never tried. -/
theorem Kept.not_tried (kept : Kept otherSecretKeys s) {codeHash : String} {t : ℤ} {accepted : Bool} :
    .tried s.codes.nextId codeHash t accepted ∉ s.log := by
  intro member
  obtain ⟨code, issued⟩ := tried_issued kept.lawful member
  exact lt_irrefl _ (kept.fresh _ code issued)

theorem wrongTries_issued (id i : ℕ) (code : IssuedCode) (log : List Event) : wrongTries id (.issued i code :: log) = wrongTries id log := by
  unfold wrongTries
  rw [List.countP_cons]
  rfl

/-- A row kept in a state that only adds to what came before. -/
theorem RowKept.grow {s' : System} {id : ℕ} {row : SigninCodeRow} {event : Event} (kept : RowKept s id row)
    (later : OutboxRuns.Later s.mail s'.mail) (log : s'.log = event :: s.log) (tries : wrongTries id s'.log = wrongTries id s.log)
    (last : row.usedAt = none → ∀ id' code', event = .issued id' code' → code'.email = row.email → id' ≤ id)
    (unused : row.usedAt = none → ∀ codeHash t, event ≠ .tried id codeHash t true) : RowKept s' id row where
  issued := log ▸ List.mem_cons_of_mem _ kept.issued
  expiresAt := kept.expiresAt
  attempts := kept.attempts.trans tries.symm
  last free id' code' issued same := by
    rw [log] at issued
    rcases List.mem_cons.mp issued with here | earlier
    · exact last free id' code' here.symm same
    · exact kept.last free id' code' earlier same
  unused free codeHash t tried := by
    rw [log] at tried
    rcases List.mem_cons.mp tried with here | earlier
    · exact unused free codeHash t here.symm
    · exact kept.unused free codeHash t earlier
  linked := by
    obtain ⟨m, mailRow, linked, there, key⟩ := kept.linked
    obtain ⟨row', there', same, -⟩ := later.rows m mailRow there
    exact ⟨m, row', linked, there', same.key.trans key⟩

theorem issue_rows {s' : System} {email : String} {now : ℤ} {m id : ℕ} {row' : SigninCodeRow} {mailRow : Outbox.EmailRow}
    (kept : Kept otherSecretKeys s) (data : CreateSigninCodeData)
    (codes : s'.codes = linkOutbox (createCode (invalidateForEmail s.codes email now) data) s.codes.nextId m)
    (log : s'.log = .issued s.codes.nextId { email, codeHash := data.codeHash, createdAt := data.now } :: s.log)
    (isEmail : data.email = email) (expiresAt : data.expiresAt = expiryOf data.now) (later : OutboxRuns.Later s.mail s'.mail)
    (there : s'.mail.outbox.get m = some mailRow) (key : mailRow.idempotencyKey = codeKey s.codes.nextId)
    (is : s'.codes.get id = some row') : RowKept s' id row' := by
  have sameId : (invalidateForEmail s.codes email now).nextId = s.codes.nextId := Table.nextId_updateWhere ..
  rw [codes] at is
  unfold linkOutbox createCode at is
  by_cases isNew : id = s.codes.nextId
  · rw [isNew, Table.get_update_self, ← sameId, Table.get_insert_self] at is
    cases Option.some.inj is
    rw [isNew]
    have noTries : wrongTries s.codes.nextId s.log = 0 := by
      apply List.countP_eq_zero.mpr
      intro event member wrong
      cases event with
      | issued => cases wrong
      | swept => cases wrong
      | tried i codeHash t accepted =>
        rw [of_decide_eq_true (Bool.and_eq_true_iff.mp wrong).1] at member
        exact kept.not_tried member
    refine ⟨?_, expiresAt, ?_, fun _ id' code' issued _ => ?_, fun _ codeHash t tried => ?_, m, mailRow, rfl, there, key⟩
    · rw [log, ← isEmail]
      exact List.mem_cons_self
    · rw [log, wrongTries_issued, noTries]
    · rw [log] at issued
      rcases List.mem_cons.mp issued with here | earlier
      · cases here
        exact le_rfl
      · exact (kept.fresh id' code' earlier).le
    · rw [log] at tried
      rcases List.mem_cons.mp tried with here | earlier
      · cases here
      · exact kept.not_tried earlier
  · rw [Table.get_update_of_ne _ _ isNew, Table.get_insert_of_ne _ _ (sameId.symm ▸ isNew)] at is
    obtain ⟨row, was, ⟨rfl, other⟩ | rfl⟩ := get_invalidateForEmail is
    · refine (kept.rows id _ was).grow later log (by rw [log, wrongTries_issued]) ?_ (fun _ _ _ impossible => by cases impossible)
      intro free id' code' here same
      cases here
      exact absurd same.symm (other free)
    · have before := kept.rows id _ was
      obtain ⟨m', mailRow', linked, there', key'⟩ := before.linked
      obtain ⟨row'', there'', same, -⟩ := later.rows m' mailRow' there'
      refine ⟨log ▸ List.mem_cons_of_mem _ before.issued, before.expiresAt, ?_, (fun used => by cases used), (fun used => by cases used),
        m', row'', linked, there'', same.key.trans key'⟩
      rw [log, wrongTries_issued]
      exact before.attempts

theorem issue_kept {s' : System} {email code : String} {params : RequestSigninCodeParams} (kept : Kept otherSecretKeys s)
    (done : s.issue hashToken normalizeEmail formatInviteExpiry email code params = .ok s') : Kept otherSecretKeys s' := by
  have sameId : (invalidateForEmail s.codes email params.now).nextId = s.codes.nextId := Table.nextId_updateWhere ..
  obtain ⟨m, mailRow, found, there, key, toEmail, giveUpAt⟩ :=
    enqueue_free s.mail.outbox (signinCodeEmail formatInviteExpiry s.codes.nextId email code params) kept.key_free
  have later := OutboxRuns.enqueue_later s.mail (signinCodeEmail formatInviteExpiry s.codes.nextId email code params)
  unfold System.issue at done
  dsimp only at done
  rw [sameId, show codeKey s.codes.nextId = (signinCodeEmail formatInviteExpiry s.codes.nextId email code params).idempotencyKey from rfl,
    found] at done
  cases done
  have before (id : ℕ) (code' : IssuedCode) (issued : .issued id code' ∈ s.log) : id < s.codes.nextId := kept.fresh id code' issued
  refine ⟨⟨before, kept.lawful⟩, fun id code' issued => ?_, fun id row' is => ?_, fun id code' issued => ?_, fun m' row' id there' isKey => ?_,
    OutboxRuns.enqueue_kept kept.outbox _⟩
  · dsimp only [linkOutbox, createCode]
    rw [Table.nextId_update, Table.nextId_insert, sameId]
    rcases List.mem_cons.mp issued with here | earlier
    · cases here
      exact Nat.lt_succ_self _
    · exact (before id code' earlier).trans (Nat.lt_succ_self _)
  · exact issue_rows kept
      { email, codeHash := hashSigninCode hashToken normalizeEmail email code, expiresAt := expiryOf params.now
        requestedIpHash := (params.requesterIp.filter (· ≠ "")).map hashToken, now := params.now }
      rfl rfl rfl rfl later there key is
  · rcases List.mem_cons.mp issued with here | earlier
    · cases here
      exact ⟨m, mailRow, there, key, toEmail, giveUpAt⟩
    · obtain ⟨m', row', there', email'⟩ := kept.emails id code' earlier
      obtain ⟨row'', there'', same, -⟩ := later.rows m' row' there'
      exact ⟨m', row'', there'', same.key.trans email'.key, same.toEmail.trans email'.toEmail, same.giveUpAt.trans email'.giveUpAt⟩
  · rcases OutboxRuns.enqueue_get there' with old | ⟨-, isCodeKey, -⟩
    · obtain ⟨code', issued⟩ := kept.keys m' row' id old isKey
      exact ⟨code', List.mem_cons_of_mem _ issued⟩
    · have sameId' : s.codes.nextId = id := codeKey_injective (isCodeKey.symm.trans isKey)
      rw [← sameId']
      exact ⟨_, List.mem_cons_self⟩

theorem requestCode_kept {params : RequestSigninCodeParams} {code : String} (kept : Kept otherSecretKeys s) :
    Kept otherSecretKeys
      (leaves s ((s.requestCode hashToken normalizeEmail formatInviteExpiry params code).map (·.1))) := by
  apply leaves_invariant kept
  intro s' done
  obtain ⟨⟨after, reason⟩, requested, rfl⟩ := map_ok done
  unfold System.requestCode at requested
  dsimp only at requested
  split_ifs at requested
  · cases requested
    exact kept
  · cases requested
    exact kept
  · cases requested
    exact kept
  · obtain ⟨issued, isIssued, same⟩ := map_ok requested
    cases same
    exact issue_kept kept isIssued

/-! A code is tried. -/

/-- The code that a typed one is compared with. -/
theorem Kept.isOpen (kept : Kept otherSecretKeys s) {email : String} {now : ℤ} {id : ℕ} {row : SigninCodeRow}
    (found : findUsableForEmail s.codes email now = some (id, row)) :
    s.codes.get id = some row ∧ usableCodeWhere now row = true ∧ Open s.log id now (issuedCode row) := by
  obtain ⟨there, chosen⟩ := Table.mem_select.mp (List.mem_of_getLast? found)
  have usable : usableCodeWhere now row = true := (Bool.and_eq_true_iff.mp chosen).2
  refine ⟨there, usable, ?_⟩
  have before := kept.rows id row there
  obtain ⟨both, unlocked⟩ := Bool.and_eq_true_iff.mp usable
  obtain ⟨unused, inTime⟩ := Bool.and_eq_true_iff.mp both
  have isUnused := of_decide_eq_true unused
  refine ⟨before.issued, ?_, before.last isUnused, before.unused isUnused, ?_⟩
  · rw [issuedCode, ← before.expiresAt]
    exact of_decide_eq_true inTime
  · rw [← before.attempts]
    exact of_decide_eq_true unlocked

/-- What a try does to the row of its code. -/
structure TryChange (accepted : Bool) (row row' : SigninCodeRow) : Prop where
  code : issuedCode row' = issuedCode row
  expiresAt : row'.expiresAt = row.expiresAt
  emailOutboxId : row'.emailOutboxId = row.emailOutboxId
  attempts : row'.attempts = row.attempts + if accepted then 0 else 1
  usedAt : row'.usedAt = none → row.usedAt = none ∧ accepted = false

theorem wrongTries_tried (i id : ℕ) (codeHash : String) (now : ℤ) (accepted : Bool) (log : List Event) :
    wrongTries i (.tried id codeHash now accepted :: log) = wrongTries i log + if id = i ∧ accepted = false then 1 else 0 := by
  unfold wrongTries
  rw [List.countP_cons]
  congr 1
  cases accepted <;> simp [isWrongTry]

theorem tried_kept {email codeHash : String} {now : ℤ} {id : ℕ} {row : SigninCodeRow} {accepted : Bool}
    {change : SigninCodeRow → SigninCodeRow} (kept : Kept otherSecretKeys s)
    (found : findUsableForEmail s.codes email now = some (id, row)) (right : accepted = true ↔ codeHash = row.codeHash)
    (changes : ∀ row, TryChange accepted row (change row)) :
    Kept otherSecretKeys { s with
      codes := (s.codes.updateIf id (usableCodeWhere now) change).1, log := .tried id codeHash now accepted :: s.log } := by
  obtain ⟨there, usable, isOpen⟩ := kept.isOpen found
  have earlier {i : ℕ} {code : IssuedCode} (issued : .issued i code ∈ (.tried id codeHash now accepted :: s.log)) : .issued i code ∈ s.log :=
    (List.mem_cons.mp issued).resolve_left fun impossible => by cases impossible
  refine ⟨⟨⟨issuedCode row, isOpen, right⟩, kept.lawful⟩, fun i code issued => ?_, fun i row' is => ?_,
    fun i code issued => kept.emails i code (earlier issued), fun m mailRow i there' key => ?_, kept.outbox⟩
  · dsimp only
    rw [Table.nextId_updateIf]
    exact kept.fresh i code (earlier issued)
  · dsimp only at is
    by_cases isIt : i = id
    · rw [isIt, Table.updateIf_self, there, Option.map_some, if_pos usable] at is
      cases Option.some.inj is
      rw [isIt]
      have before := kept.rows id row there
      obtain ⟨code, expiresAt, emailOutboxId, attempts, usedAt⟩ := changes row
      have sameEmail : (change row).email = row.email := congrArg IssuedCode.email code
      have sameTime : (change row).createdAt = row.createdAt := congrArg IssuedCode.createdAt code
      refine ⟨?_, ?_, ?_, fun free i' code' issued same => ?_, fun free codeHash' t tried => ?_, ?_⟩
      · rw [code]
        exact List.mem_cons_of_mem _ before.issued
      · rw [expiresAt, sameTime]
        exact before.expiresAt
      · rw [attempts, wrongTries_tried, before.attempts]
        cases accepted <;> simp
      · exact before.last (usedAt free).1 i' code' (earlier issued) (same.trans sameEmail)
      · rcases List.mem_cons.mp tried with here | old
        · cases here
          exact Bool.false_ne_true ((usedAt free).2).symm
        · exact before.unused (usedAt free).1 codeHash' t old
      · rw [emailOutboxId]
        exact before.linked
    · rw [Table.updateIf_other isIt] at is
      refine (kept.rows i row' is).grow (OutboxRuns.Later.refl _) rfl ?_ (fun _ _ _ impossible => by cases impossible) ?_
      · rw [wrongTries_tried, if_neg fun both => isIt both.1.symm, add_zero]
      · intro _ _ _ here
        cases here
        exact isIt rfl
  · obtain ⟨code, issued⟩ := kept.keys m mailRow i there' key
    exact ⟨code, List.mem_cons_of_mem _ issued⟩

theorem verifyCode_kept {email code : String} {now : ℤ} (kept : Kept otherSecretKeys s) :
    Kept otherSecretKeys (s.verifyCode hashToken normalizeEmail email code now).1 := by
  unfold System.verifyCode
  dsimp only
  split
  · exact kept
  · next id row found =>
    split_ifs with wrong refused
    · refine tried_kept kept found ⟨(fun impossible => by cases impossible), fun same => absurd same wrong⟩ fun _ => ?_
      exact ⟨rfl, rfl, rfl, rfl, fun free => ⟨free, rfl⟩⟩
    · exact kept
    · refine tried_kept kept found ⟨fun _ => not_not.mp wrong, fun _ => rfl⟩ fun _ => ?_
      exact ⟨rfl, rfl, rfl, rfl, fun used => by cases used⟩

/-- A try is answered exactly when the typed code is the last usable one of its address, and is a try of that one. -/
structure Answered (s : System) (email codeHash : String) (now : ℤ) (s' : System) (answer : Option (List SigninShop)) : Prop where
  accepted : answer.isSome = true ↔ ∃ id row, findUsableForEmail s.codes email now = some (id, row) ∧ codeHash = row.codeHash
  shops : ∀ shops, answer = some shops →
    shops = (s.findByEmail email).map fun a => { slug := a.slug, name := a.shopName, username := a.username }
  logged : ∀ id row, findUsableForEmail s.codes email now = some (id, row) → s'.log = .tried id codeHash now answer.isSome :: s.log
  unusable : findUsableForEmail s.codes email now = none → s' = s

/-- A code that is found is not refused when it is consumed. -/
theorem Kept.consumed (kept : Kept otherSecretKeys s) {email : String} {now : ℤ} {id : ℕ} {row : SigninCodeRow}
    (found : findUsableForEmail s.codes email now = some (id, row)) : (consume s.codes id now).2 = true := by
  obtain ⟨there, usable, -⟩ := kept.isOpen found
  unfold consume Table.updateIf
  rw [there]
  dsimp only
  rw [if_pos usable]

theorem verifyCode_answered (kept : Kept otherSecretKeys s) (email code : String) (now : ℤ) :
    Answered s (normalizeEmail email) (hashSigninCode hashToken normalizeEmail (normalizeEmail email) code) now
      (s.verifyCode hashToken normalizeEmail email code now).1 (s.verifyCode hashToken normalizeEmail email code now).2 := by
  unfold System.verifyCode
  dsimp only
  cases found : findUsableForEmail s.codes (normalizeEmail email) now with
  | none =>
    refine ⟨⟨(fun impossible => by cases impossible), ?_⟩, (fun _ none => by cases none), (fun _ _ some' => by cases found.symm.trans some'),
      fun _ => rfl⟩
    rintro ⟨id, row, some', -⟩
    cases found.symm.trans some'
  | some entry =>
    obtain ⟨id, row⟩ := entry
    have isIt {id' : ℕ} {row' : SigninCodeRow} (again : findUsableForEmail s.codes (normalizeEmail email) now = some (id', row')) :
        id' = id ∧ row' = row := by
      obtain ⟨rfl, rfl⟩ := Prod.mk.inj (Option.some.inj (again.symm.trans found))
      exact ⟨rfl, rfl⟩
    dsimp only
    by_cases right : hashSigninCode hashToken normalizeEmail (normalizeEmail email) code = row.codeHash
    · rw [if_neg (not_not.mpr right), kept.consumed found, if_neg (by decide)]
      refine ⟨⟨fun _ => ⟨id, row, found, right⟩, fun _ => rfl⟩, fun shops same => (Option.some.inj same).symm, fun id' row' again => ?_,
        fun none => by cases none.symm.trans found⟩
      obtain ⟨rfl, rfl⟩ := isIt again
      rfl
    · rw [if_pos right]
      refine ⟨⟨(fun impossible => by cases impossible), ?_⟩, (fun _ none => by cases none), fun id' row' again => ?_,
        fun none => by cases none.symm.trans found⟩
      · rintro ⟨id', row', again, same⟩
        obtain ⟨rfl, rfl⟩ := isIt again
        exact absurd same right
      · obtain ⟨rfl, rfl⟩ := isIt again
        rfl

theorem sweepCodes_kept {now : ℤ} (kept : Kept otherSecretKeys s) : Kept otherSecretKeys (s.sweepCodes now) := by
  have earlier {i : ℕ} {code : IssuedCode} (issued : .issued i code ∈ (.swept now :: s.log)) : .issued i code ∈ s.log :=
    (List.mem_cons.mp issued).resolve_left fun impossible => by cases impossible
  refine ⟨kept.lawful, fun i code issued => ?_, fun i row' is => ?_, fun i code issued => kept.emails i code (earlier issued),
    fun m mailRow i there key => ?_, kept.outbox⟩
  · dsimp only [System.sweepCodes, deleteExpiredBefore]
    rw [Table.nextId_deleteWhere]
    exact kept.fresh i code (earlier issued)
  · dsimp only [System.sweepCodes, deleteExpiredBefore] at is
    rw [Table.get_deleteWhere] at is
    have was : s.codes.get i = some row' := (Option.filter_eq_some_iff.mp is).1
    refine (kept.rows i row' was).grow (OutboxRuns.Later.refl _) rfl ?_ (fun _ _ _ impossible => by cases impossible)
      (fun _ _ _ impossible => by cases impossible)
    unfold wrongTries System.sweepCodes
    rw [List.countP_cons]
    rfl
  · obtain ⟨code, issued⟩ := kept.keys m mailRow i there key
    exact ⟨code, List.mem_cons_of_mem _ issued⟩

theorem exec_kept (kept : Kept otherSecretKeys s) (action : Action) :
    Kept otherSecretKeys (exec hashToken normalizeEmail formatInviteExpiry renderTemplate otherSecretKeys secrets s action) := by
  cases action with
  | requestCode params code => exact requestCode_kept kept
  | verifyCode email code now => exact verifyCode_kept kept
  | sweepCodes now => exact sweepCodes_kept kept
  | directory findByEmail => exact ⟨kept.lawful, kept.fresh, fun id row found => { kept.rows id row found with }, kept.emails, kept.keys, kept.outbox⟩
  | mail action other => exact mail_kept kept other

end

/-- Whatever is asked for, typed and swept, and whatever happens to the emails. -/
theorem run_usedOnce (hashToken normalizeEmail : String → String) (formatInviteExpiry : ℤ → String)
    (renderTemplate : String → Outbox.EmailTemplateData → Except String Unit) (otherSecretKeys secrets : List String)
    (actions : List Action) :
    let s := run (exec hashToken normalizeEmail formatInviteExpiry renderTemplate otherSecretKeys secrets) {} actions
    Lawful s.log ∧ (∀ id, s.log.countP (isRightTry id) ≤ 1 ∧ wrongTries id s.log ≤ signinCodeMaxAttempts) ∧
      (∀ id row, s.codes.get id = some row → RowKept s id row) ∧
      (∀ email code now, Answered s (normalizeEmail email) (hashSigninCode hashToken normalizeEmail (normalizeEmail email) code) now
        (s.verifyCode hashToken normalizeEmail email code now).1 (s.verifyCode hashToken normalizeEmail email code now).2) ∧
      ∀ id code, .issued id code ∈ s.log → ∃ m row, s.mail.outbox.get m = some row ∧ CodeEmail id code row ∧
        OutboxRuns.SentOnce (secretDataKeys otherSecretKeys) s.mail m row := by
  intro s
  have kept : Kept otherSecretKeys s := run_always (Kept otherSecretKeys) (fun _ action kept => exec_kept kept action) kept_empty actions
  refine ⟨kept.lawful, fun id => ⟨rightTries_le kept.lawful id, wrongTries_le kept.lawful id⟩, kept.rows,
    verifyCode_answered kept, fun id code issued => ?_⟩
  obtain ⟨m, row, there, email⟩ := kept.emails id code issued
  exact ⟨m, row, there, email, kept.outbox.sentOnce there⟩

end Liratek.Signin.CodeRuns

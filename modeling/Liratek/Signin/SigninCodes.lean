import Liratek.Email.OutboxRuns
import Liratek.Lib.Calls

/-! Sign-in codes: a code is mailed to an address, and a right code answers with the shops of that address. -/

namespace Liratek.Signin.SigninCodes
open Lib Email

structure SigninCodeRow where
  /-- normalised -/
  email : String
  codeHash : String
  expiresAt : ℤ
  attempts : ℕ := 0
  usedAt : Option ℤ := none
  requestedIpHash : Option String
  emailOutboxId : Option ℕ := none
  createdAt : ℤ
  deriving DecidableEq, Repr

structure CreateSigninCodeData where
  email : String
  codeHash : String
  expiresAt : ℤ
  requestedIpHash : Option String
  now : ℤ

def signinCodeTtlMinutes : ℤ := 10
def signinCodeMaxAttempts : ℕ := 5
def signinCodePerEmailLimit : ℕ := 5
def signinCodePerEmailWindowMs : ℤ := 60 * 60 * 1000
def signinCodeSecretKey : String := "code"
def signinCodeTemplate : String := "signin-code"

/-! The repository. -/

section
variable (codes : Table SigninCodeRow)

def createCode (data : CreateSigninCodeData) : Table SigninCodeRow :=
  codes.insert
    { email := data.email, codeHash := data.codeHash, expiresAt := data.expiresAt, requestedIpHash := data.requestedIpHash
      createdAt := data.now }

def linkOutbox (id outboxId : ℕ) : Table SigninCodeRow :=
  codes.update id fun row => { row with emailOutboxId := some outboxId }

def usableCodeWhere (now : ℤ) (row : SigninCodeRow) : Bool :=
  row.usedAt = none && now < row.expiresAt && row.attempts < signinCodeMaxAttempts

/-- The last of the usable codes. -/
def findUsableForEmail (email : String) (now : ℤ) : Option (ℕ × SigninCodeRow) :=
  (codes.select fun row => row.email = email && usableCodeWhere now row).getLast?

def recordFailedAttempt (id : ℕ) (now : ℤ) : Table SigninCodeRow :=
  (codes.updateIf id (usableCodeWhere now) fun row => { row with attempts := row.attempts + 1 }).1

def consume (id : ℕ) (now : ℤ) : Table SigninCodeRow × Bool :=
  codes.updateIf id (usableCodeWhere now) fun row => { row with usedAt := some now }

def invalidateForEmail (email : String) (now : ℤ) : Table SigninCodeRow :=
  codes.updateWhere (fun row => row.email = email && row.usedAt = none) fun row => { row with usedAt := some now }

def countForEmailSince (email : String) (since : ℤ) : ℕ :=
  (codes.select fun row => row.email = email && since ≤ row.createdAt).length

def deleteExpiredBefore (before : ℤ) : Table SigninCodeRow :=
  codes.deleteWhere fun row => row.expiresAt < before

end

/-! The service. -/

structure DirectoryAccount where
  tenantId : ℕ
  slug : String
  shopName : String
  userId : ℕ
  username : String

structure SigninShop where
  slug : String
  name : String
  username : String

structure RequestSigninCodeParams where
  email : String
  now : ℤ
  emailConfigured : Bool
  supportEmail : String
  requesterIp : Option String

inductive SigninCodeRequestReason where
  | queued | noAccount | emailLimit | notConfigured
  deriving DecidableEq, Repr

/-- A code as it was sent. -/
structure IssuedCode where
  email : String
  codeHash : String
  createdAt : ℤ
  deriving DecidableEq, Repr

/-- What has happened, the last first. -/
inductive Event where
  | issued (id : ℕ) (code : IssuedCode)
  /-- a typed code was compared with this one -/
  | tried (id : ℕ) (codeHash : String) (now : ℤ) (accepted : Bool)
  | swept (now : ℤ)
  deriving DecidableEq, Repr

structure System where
  codes : Table SigninCodeRow := {}
  mail : Outbox.System := {}
  /-- what the sign-in directory finds for an address, which other services keep -/
  findByEmail : String → List DirectoryAccount := fun _ => []
  log : List Event := []

def codeKey (id : ℕ) : String :=
  "signin-code:" ++ id.repr

def authTokenPurgeGraceMs : ℤ := 7 * 24 * 60 * 60 * 1000

section
variable (hashToken normalizeEmail : String → String)
-- the text of an expiry
variable (formatInviteExpiry : ℤ → String)

def hashSigninCode (email code : String) : String :=
  hashToken (normalizeEmail email ++ ":" ++ code)

def expiryOf (now : ℤ) : ℤ :=
  now + signinCodeTtlMinutes * 60000

def signinCodeEmail (id : ℕ) (email code : String) (params : RequestSigninCodeParams) : Outbox.EnqueueEmailData where
  idempotencyKey := codeKey id
  template := signinCodeTemplate
  toEmail := email
  data := [(signinCodeSecretKey, .text code), ("expiresAtText", .text (formatInviteExpiry (expiryOf params.now))),
    ("supportEmail", .text params.supportEmail)]
  now := params.now
  giveUpAt := expiryOf params.now

namespace System
variable (s : System)

/-- The transaction that replaces the codes of an address by a new one and queues its email. -/
def issue (email code : String) (params : RequestSigninCodeParams) : Except String System :=
  let codeHash := hashSigninCode hashToken normalizeEmail email code
  let codes := invalidateForEmail s.codes email params.now
  let id := codes.nextId
  let codes := createCode codes
    -- an empty address of the requester is none
    { email, codeHash, expiresAt := expiryOf params.now, requestedIpHash := (params.requesterIp.filter (· ≠ "")).map hashToken
      now := params.now }
  let outbox := Outbox.enqueue s.mail.outbox (signinCodeEmail formatInviteExpiry id email code params)
  match Outbox.findByIdempotencyKey outbox (codeKey id) with
  | none => .error "Enqueued email row could not be reloaded"
  | some (outboxId, _) =>
    .ok { s with
      codes := linkOutbox codes id outboxId, mail := { s.mail with outbox }
      log := .issued id { email, codeHash, createdAt := params.now } :: s.log }

def requestCode (params : RequestSigninCodeParams) (code : String) : Except String (System × SigninCodeRequestReason) :=
  let email := normalizeEmail params.email
  if !params.emailConfigured then .ok (s, .notConfigured)
  else if (s.findByEmail email).isEmpty then .ok (s, .noAccount)
  else if signinCodePerEmailLimit ≤ countForEmailSince s.codes email (params.now - signinCodePerEmailWindowMs) then .ok (s, .emailLimit)
  else (issue hashToken normalizeEmail formatInviteExpiry s email code params).map fun s' => (s', .queued)

/-- The shops that a right code answers with, or none for every code that is not usable. -/
def verifyCode (typedEmail code : String) (now : ℤ) : System × Option (List SigninShop) :=
  let email := normalizeEmail typedEmail
  match findUsableForEmail s.codes email now with
  | none => (s, none)
  | some (id, row) =>
    let codeHash := hashSigninCode hashToken normalizeEmail email code
    if codeHash ≠ row.codeHash then
      ({ s with codes := recordFailedAttempt s.codes id now, log := .tried id codeHash now false :: s.log }, none)
    else
      let consumed := consume s.codes id now
      if !consumed.2 then (s, none)
      else
        ({ s with codes := consumed.1, log := .tried id codeHash now true :: s.log },
          some ((s.findByEmail email).map fun a => { slug := a.slug, name := a.shopName, username := a.username }))

/-- The codes that the cleanup deletes. -/
def sweepCodes (now : ℤ) : System :=
  { s with codes := deleteExpiredBefore s.codes (now - authTokenPurgeGraceMs), log := .swept now :: s.log }

end System

inductive Action where
  | requestCode (params : RequestSigninCodeParams) (code : String)
  | verifyCode (email code : String) (now : ℤ)
  | sweepCodes (now : ℤ)
  | directory (findByEmail : String → List DirectoryAccount)
  /-- the worker of the outbox, or an email of another service, under a key of its own -/
  | mail (action : Outbox.Action) (other : ∀ data, action = .enqueue data → ∀ id, data.idempotencyKey ≠ codeKey id)

variable (renderTemplate : String → Outbox.EmailTemplateData → Except String Unit)
-- the secret keys of the other templates
variable (otherSecretKeys secrets : List String)

def secretDataKeys : List String :=
  signinCodeSecretKey :: otherSecretKeys

def exec (s : System) : Action → System
  | .requestCode params code =>
    Calls.leaves s ((s.requestCode hashToken normalizeEmail formatInviteExpiry params code).map (·.1))
  | .verifyCode email code now => (s.verifyCode hashToken normalizeEmail email code now).1
  | .sweepCodes now => s.sweepCodes now
  | .directory findByEmail => { s with findByEmail }
  | .mail action _ => { s with mail := Outbox.exec renderTemplate (secretDataKeys otherSecretKeys) secrets s.mail action }

end

end Liratek.Signin.SigninCodes

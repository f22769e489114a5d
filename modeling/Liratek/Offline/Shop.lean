import Liratek.Offline.Review
import Liratek.Offline.Upload

/-! One shop's event store under uploads, merge rounds and admin actions. A merge round is a sequence of
engine calls and cursor writes, with other steps between them. -/

namespace Liratek.Offline.Shop
open Tables Channels Replay Review Upload

inductive Step where
  | upload (deviceId : Nat) (body : UploadInput) (receipt : Receipt)
  /-- one engine call of a merge round -/
  | merge (id : RowId) (answers : Answers)
  | cursor (deviceId seq : Nat)
  | apply (item : ItemId) (adminId : Nat) (answers : RowId → Answers)
  | bookAnyway (item : ItemId) (adminId : Nat) (answers : RowId → Answers)
  | dismiss (item : ItemId) (adminId : Nat) (note : Option String) (answers : RowId → Answers)
  | markReviewed (item : ItemId) (adminId : Nat) (answers : RowId → Answers)

/-- The engine call of a merge round on a stored row. -/
def mergeEvent (policy : Policy) (s : Store) (id : RowId) (answers : Answers) : Store :=
  match s.events[id]? with
  | none => s
  | some event => (process policy s id event { mode := .auto } answers).1

/-- One step of the shop. -/
def exec (policy : Policy) (s : Store) : Step → Store
  | .upload deviceId body receipt => (Upload.upload policy s deviceId body receipt).1
  | .merge id answers => mergeEvent policy s id answers
  | .cursor deviceId seq => s.setNextExpectedSeq deviceId seq
  | .apply item adminId answers => (Review.apply policy s item adminId answers).1
  | .bookAnyway item adminId answers => (Review.bookAnyway policy s item adminId answers).1
  | .dismiss item adminId note answers => (Review.dismiss policy s item adminId note answers).1
  | .markReviewed item adminId answers => (Review.markReviewed policy s item adminId answers).1

/-- An Apply whose duplicate hook is reached and answers with a certain duplicate. -/
def CertainOnApply (policy : Policy) (s : Store) : Step → Prop
  | .apply item adminId answers => ∃ id event row, Applicable s item id event row ∧
      HookCertain policy s event (applyOptions id adminId row) (answers id)
  | _ => False

/-- The step may release the dependants of `event`. -/
def MayRelease (s : Store) (event : EventRow) : Step → Prop
  | .apply item _ _ => ∃ id row, Applicable s item id event row
  | .bookAnyway item _ _ => ∃ id row, OpenOn s item id event row ∧ row.kind = .certainDuplicate
  | .dismiss item _ _ _ => ∃ id row, OpenOn s item id event row ∧ row.kind = .possibleDuplicate
  | .markReviewed item _ _ => ∃ id row, OpenOn s item id event row ∧ row.kind = .certainDuplicate
  | _ => False

/-- A shop before its PCs sent anything. -/
def newShop (devices : List DeviceRow) : Store where
  devices := devices

end Liratek.Offline.Shop

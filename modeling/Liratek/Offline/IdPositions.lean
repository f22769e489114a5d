import Liratek.Lib.Trim
import Liratek.Offline.IdRange
import Mathlib.Algebra.Order.Field.Rat
import Mathlib.Tactic.Linarith
import Mathlib.Tactic.SplitIfs

/-! The id positions of an offline event's payload, where the server puts its own ids in place of those of a PC. -/

namespace Liratek.Offline.IdPositions
open Channels (offlineIdFloor)
open IdRange (maxSafeInteger)
open Lib.Trim

/-- A JSON value as `JSON.parse` reads it: a number beyond the doubles stands for an infinite one. A string is the JSON text of
an object or an array, and stands for it, or it is any other text. -/
inductive Payload where
  | null
  | bool (b : Bool)
  | num (n : ℚ)
  | str (s : String)
  | document (value : Payload)
  | arr (items : List Payload)
  | obj (fields : List (String × Payload))

/-- `typeof v === "number" || typeof v === "string"` -/
def Payload.isScalar : Payload → Bool
  | .num _ | .str _ | .document _ => true
  | _ => false

/-- The value of an id position as a number: an integer, or a text of digits. -/
def parseIdLike : Payload → Option ℤ
  | .num n => if n.den = 1 ∧ n.num.natAbs ≤ maxSafeInteger then some n.num else none
  | .str s =>
    let t := trim s.toList
    if t.all Char.isDigit ∧ 1 ≤ t.length ∧ t.length ≤ 16 then
      let n := Nat.ofDigitChars 10 t 0
      if n ≤ maxSafeInteger then some n else none
    else none
  | _ => none

def isOfflineId (n : ℤ) : Bool :=
  0 ≤ n && IdRange.isOfflineId n.toNat

/-- An integer of the range, as a number. -/
def isOfflineNumber (n : ℚ) : Bool :=
  n.den = 1 && isOfflineId n.num

/-- Keys whose string is the text of a document with more id positions. -/
def embeddedJsonKeys : List String := ["form_data", "formData"]

def isLowerOrDigit (c : Char) : Bool :=
  ('a' ≤ c && c ≤ 'z') || ('0' ≤ c && c ≤ '9')

/-- `/(^id$|_id$|[a-z0-9]Id$)/` -/
def singleIdKey (key : String) : Bool :=
  match key.toList.reverse with
  | ['d', 'i'] => true
  | 'd' :: 'i' :: '_' :: _ => true
  | 'd' :: 'I' :: c :: _ => isLowerOrDigit c
  | _ => false

/-- `/(^ids$|_ids$|[a-z0-9]Ids$)/` -/
def idArrayKey (key : String) : Bool :=
  match key.toList.reverse with
  | ['s', 'd', 'i'] => true
  | 's' :: 'd' :: 'i' :: '_' :: _ => true
  | 's' :: 'd' :: 'I' :: c :: _ => isLowerOrDigit c
  | _ => false

/-- From here on a literal is read as an infinite number: halfway from the largest double to 2^1024. -/
def doubleLimit : ℚ := 2 ^ 1024 - 2 ^ 970

def isInfinite (n : ℚ) : Bool :=
  doubleLimit ≤ n || n ≤ -doubleLimit

mutual
/-- What `JSON.stringify` writes: null for an infinite number. -/
def written : Payload → Payload
  | .num n => if isInfinite n then .null else .num n
  | .arr items => .arr (writtenItems items)
  | .obj fields => .obj (writtenFields fields)
  | v => v

def writtenItems : List Payload → List Payload
  | [] => []
  | v :: rest => written v :: writtenItems rest

def writtenFields : List (String × Payload) → List (String × Payload)
  | [] => []
  | (k, v) :: rest => (k, written v) :: writtenFields rest
end

/-- What a visit gives back, and what it finds on the way. -/
structure Visited (ω α : Type*) where
  value : α
  found : List ω

def Visited.map {ω α β : Type*} (f : α → β) (v : Visited ω α) : Visited ω β where
  value := f v.value
  found := v.found

def Visited.cons {ω α : Type*} (first : Visited ω α) (rest : Visited ω (List α)) : Visited ω (List α) where
  value := first.value :: rest.value
  found := first.found ++ rest.found

/-- `out[k] = value`: the prototype is no key of the object. -/
def Visited.assign {ω α : Type*} (k : String) (value : Visited ω α) (rest : Visited ω (List (String × α))) :
    Visited ω (List (String × α)) where
  value := if k = "__proto__" then rest.value else (k, value.value) :: rest.value
  found := value.found ++ rest.found

section
variable {ω : Type*} (onId onOther : String → Payload → Visited ω Payload)

def itemPath (path : String) (i : Nat) : String :=
  path ++ "[" ++ toString i ++ "]"

def keyPath (path k : String) : String :=
  if path = "" then k else path ++ "." ++ k

mutual
/-- The value of a text that is no document is a leaf. -/
def walk (path : String) : Payload → Visited ω Payload
  | .arr items => (walkItems path 0 items).map .arr
  | .obj fields => (walkFields path fields).map .obj
  | v => onOther path v

def walkItems (path : String) (i : Nat) : List Payload → Visited ω (List Payload)
  | [] => { value := [], found := [] }
  | v :: rest => (walk (itemPath path i) v).cons (walkItems path (i + 1) rest)

/-- The array of an id key. -/
def walkIds (path : String) (i : Nat) : List Payload → Visited ω (List Payload)
  | [] => { value := [], found := [] }
  | v :: rest =>
    (if v.isScalar then onId (itemPath path i) v else walk (itemPath path i) v).cons (walkIds path (i + 1) rest)

def walkFields (path : String) : List (String × Payload) → Visited ω (List (String × Payload))
  | [] => { value := [], found := [] }
  | (k, v) :: rest =>
    let p := keyPath path k
    let out : Visited ω Payload :=
      match v with
      | .document d =>
        if embeddedJsonKeys.contains k then (walk p d).map fun out => .document (written out)
        else if singleIdKey k then onId p (.document d)
        else walk p (.document d)
      | .str s =>
        if embeddedJsonKeys.contains k then onOther p (.str s)
        else if singleIdKey k then onId p (.str s)
        else walk p (.str s)
      | .num n => if singleIdKey k then onId p (.num n) else walk p (.num n)
      | .arr items => if idArrayKey k then (walkIds p 0 items).map .arr else walk p (.arr items)
      | v => walk p v
    out.assign k (walkFields path rest)
end

end

structure IdPosition where
  path : String
  value : ℤ
  asString : Bool
  deriving DecidableEq, Repr

def Payload.isString : Payload → Bool
  | .str _ | .document _ => true
  | _ => false

def keepLeaf {ω : Type*} (_path : String) (raw : Payload) : Visited ω Payload :=
  { value := raw, found := [] }

def collectId (path : String) (raw : Payload) : Visited IdPosition Payload :=
  match parseIdLike raw with
  | some n => { value := raw, found := [{ path := path, value := n, asString := raw.isString }] }
  | none => { value := raw, found := [] }

def collectIdPositions (payload : Payload) : List IdPosition :=
  (walk collectId keepLeaf "" payload).found

/-- What rewriting one id position comes to. -/
inductive Rewriting where
  | unmapped (offlineId : ℤ)
  | rewritten
  deriving DecidableEq, Repr

def serverValue (raw : Payload) (server : Nat) : Payload :=
  if raw.isString then .str (toString server) else .num server

def rewriteId (lookup : Nat → Option Nat) (_path : String) (raw : Payload) : Visited Rewriting Payload :=
  match parseIdLike raw with
  | none => { value := raw, found := [] }
  | some n =>
    if isOfflineId n then
      match lookup n.toNat with
      | none => { value := raw, found := [.unmapped n] }
      | some server => { value := serverValue raw server, found := [.rewritten] }
    else { value := raw, found := [] }

def Rewriting.unmappedId : Rewriting → Option ℤ
  | .unmapped offlineId => some offlineId
  | .rewritten => none

structure RewrittenPayload where
  payload : Payload
  unmapped : List ℤ
  rewritten : Nat

def rewriteIdPositions (payload : Payload) (lookup : Nat → Option Nat) : RewrittenPayload :=
  let out := walk (rewriteId lookup) keepLeaf "" payload
  { payload := out.value
    unmapped := (out.found.filterMap Rewriting.unmappedId).eraseDups
    rewritten := (out.found.filter fun r => r = .rewritten).length }

def outsideLeaf (path : String) (raw : Payload) : Visited (String × ℚ) Payload :=
  match raw with
  | .num n => { value := raw, found := if isOfflineNumber n then [(path, n)] else [] }
  | _ => { value := raw, found := [] }

def offlineIdsOutsidePositions (payload : Payload) : List (String × ℚ) :=
  (walk keepLeaf outsideLeaf "" payload).found

def offlineIdsInPositions (payload : Payload) : List ℤ :=
  (((collectIdPositions payload).map (·.value)).filter isOfflineId).eraseDups

/-- What the recorder asks of a payload before it books the action. -/
def admits (payload : Payload) : Bool :=
  (offlineIdsOutsidePositions payload).isEmpty

/-! Where a value stands. -/

inductive Place where
  /-- under a key of a single id, or in the array of an id key -/
  | id
  /-- under a key of an array of ids -/
  | ids
  /-- under a key of embedded JSON -/
  | embedded
  | plain
  deriving DecidableEq, Repr

def placeOf (key : String) : Place :=
  if embeddedJsonKeys.contains key then .embedded
  else if singleIdKey key then .id
  else if idArrayKey key then .ids
  else .plain

/-- Where the items of an array stand. -/
def Place.item : Place → Place
  | .ids => .id
  | _ => .plain

/-- What stands where within a payload. -/
inductive Within : Place → Payload → Place → Payload → Prop
  | here {place : Place} {v : Payload} : Within place v place v
  | item {place q : Place} {items : List Payload} {v w : Payload} (member : v ∈ items) (inside : Within place.item v q w) :
    Within place (.arr items) q w
  | field {place q : Place} {fields : List (String × Payload)} {k : String} {v w : Payload} (member : (k, v) ∈ fields)
    (inside : Within (placeOf k) v q w) : Within place (.obj fields) q w
  | document {q : Place} {d w : Payload} (inside : Within .plain d q w) : Within .embedded (.document d) q w

/-- An id position holds a number or a text. -/
def InIdPosition (place : Place) (v : Payload) : Prop :=
  place = .id ∧ v.isScalar = true

/-- A leaf of the payload that is no id position. -/
def IsOther (place : Place) : Payload → Prop
  | .arr _ | .obj _ => False
  | .document _ => place ≠ .id ∧ place ≠ .embedded
  | .num _ | .str _ => place ≠ .id
  | .null | .bool _ => True

/-- Induction on a payload. -/
theorem Payload.induct {motive : Payload → Prop} (null : motive .null) (bool : ∀ b, motive (.bool b)) (num : ∀ n, motive (.num n))
    (str : ∀ s, motive (.str s)) (document : ∀ d, motive d → motive (.document d))
    (arr : ∀ items, (∀ v ∈ items, motive v) → motive (.arr items))
    (obj : ∀ fields, (∀ k v, (k, v) ∈ fields → motive v) → motive (.obj fields)) : ∀ v, motive v
  | .null => null
  | .bool b => bool b
  | .num n => num n
  | .str s => str s
  | .document d => document d (Payload.induct null bool num str document arr obj d)
  | .arr items => arr items fun v _ => Payload.induct null bool num str document arr obj v
  | .obj fields => obj fields fun _ v _ => Payload.induct null bool num str document arr obj v
termination_by v => sizeOf v
decreasing_by
  · simp
  · have inside := List.sizeOf_lt_of_mem ‹v ∈ items›
    simp only [Payload.arr.sizeOf_spec]
    omega
  · have inside := List.sizeOf_lt_of_mem ‹(_, v) ∈ fields›
    simp only [Prod.mk.sizeOf_spec] at inside
    simp only [Payload.obj.sizeOf_spec]
    omega

/-- Induction on a payload at a place: a leaf in an id position, another leaf, an embedded document, an array or an object. -/
theorem place_induction {motive : Place → Payload → Prop} (leafId : ∀ place v, InIdPosition place v → motive place v)
    (other : ∀ place v, IsOther place v → motive place v)
    (document : ∀ d, motive .plain d → motive .embedded (.document d))
    (arr : ∀ place items, (∀ v ∈ items, motive place.item v) → motive place (.arr items))
    (obj : ∀ place fields, (∀ k v, (k, v) ∈ fields → motive (placeOf k) v) → motive place (.obj fields))
    (place : Place) (v : Payload) : motive place v := by
  have scalar {place : Place} {v : Payload} (isScalar : v.isScalar = true) (isOther : place ≠ .id → IsOther place v) :
      motive place v := by
    by_cases isId : place = .id
    · exact leafId place v ⟨isId, isScalar⟩
    · exact other place v (isOther isId)
  induction v using Payload.induct generalizing place with
  | null => exact other place .null trivial
  | bool b => exact other place (.bool b) trivial
  | num n => exact scalar rfl id
  | str s => exact scalar rfl id
  | document d ih =>
    by_cases isEmbedded : place = .embedded
    · exact isEmbedded ▸ document d (ih .plain)
    · have isOther (notId : place ≠ .id) : IsOther place (.document d) := ⟨notId, isEmbedded⟩
      exact scalar rfl isOther
  | arr items ih => exact arr place items fun v member => ih v member place.item
  | obj fields ih => exact obj place fields fun k v member => ih k v member (placeOf k)

/-- A key of embedded JSON is no id key, and a key of an array of ids is none of a single one. -/
theorem keys_of_embedded {k : String} (isEmbedded : embeddedJsonKeys.contains k = true) :
    singleIdKey k = false ∧ idArrayKey k = false := by
  have keys : k = "form_data" ∨ k = "formData" := by simpa [embeddedJsonKeys] using isEmbedded
  rcases keys with rfl | rfl <;> decide

theorem single_of_array {k : String} (isArray : idArrayKey k = true) : singleIdKey k = false := by
  unfold idArrayKey at isArray
  unfold singleIdKey
  split at isArray
  · next reversed =>
    rw [reversed]
    rfl
  · next reversed =>
    rw [reversed]
    rfl
  · next reversed =>
    rw [reversed]
    rfl
  · cases isArray

theorem placeOf_embedded {k : String} : placeOf k = .embedded ↔ embeddedJsonKeys.contains k = true := by
  unfold placeOf
  split_ifs <;> simp_all

theorem placeOf_id {k : String} : placeOf k = .id ↔ singleIdKey k = true := by
  unfold placeOf
  split_ifs with isEmbedded isSingle isArray
  · exact iff_of_false nofun (by rw [(keys_of_embedded isEmbedded).1]; exact Bool.false_ne_true)
  · exact iff_of_true rfl isSingle
  · exact iff_of_false nofun isSingle
  · exact iff_of_false nofun isSingle

theorem placeOf_ids {k : String} : placeOf k = .ids ↔ idArrayKey k = true := by
  unfold placeOf
  split_ifs with isEmbedded isSingle isArray
  · exact iff_of_false nofun (by rw [(keys_of_embedded isEmbedded).2]; exact Bool.false_ne_true)
  · exact iff_of_false nofun fun isArray => by
      rw [single_of_array isArray] at isSingle
      cases isSingle
  · exact iff_of_true rfl isArray
  · exact iff_of_false nofun isArray

section
variable {ω : Type*} (onId onOther : String → Payload → Visited ω Payload)

/-- The walk of a value at a place. -/
def walkAt (place : Place) (path : String) : Payload → Visited ω Payload
  | .document d =>
    if place = .embedded then (walk onId onOther path d).map fun out => .document (written out)
    else if place = .id then onId path (.document d)
    else onOther path (.document d)
  | .arr items =>
    (if place = .ids then walkIds onId onOther path 0 items else walkItems onId onOther path 0 items).map .arr
  | .num n => if place = .id then onId path (.num n) else onOther path (.num n)
  | .str s => if place = .id then onId path (.str s) else onOther path (.str s)
  | v => walk onId onOther path v

theorem walkAt_plain (path : String) (v : Payload) : walkAt onId onOther .plain path v = walk onId onOther path v := by
  cases v <;> rfl

theorem walkFields_cons (path k : String) (v : Payload) (rest : List (String × Payload)) :
    walkFields onId onOther path ((k, v) :: rest) =
      (walkAt onId onOther (placeOf k) (keyPath path k) v).assign k (walkFields onId onOther path rest) := by
  cases v with
  | document d =>
    rw [walkFields]
    simp only [walkAt, placeOf_embedded, placeOf_id]
    rfl
  | str s =>
    rw [walkFields]
    simp only [walkAt, placeOf_id]
    by_cases isEmbedded : embeddedJsonKeys.contains k = true
    · rw [if_pos isEmbedded, if_neg (by rw [(keys_of_embedded isEmbedded).1]; exact Bool.false_ne_true)]
    · rw [if_neg isEmbedded]
      rfl
  | num n =>
    rw [walkFields]
    simp only [walkAt, placeOf_id]
    rfl
  | arr items =>
    rw [walkFields]
    simp only [walkAt, placeOf_ids]
    split_ifs <;> rfl
  | _ => rfl

theorem walkItems_cons (path : String) (i : Nat) (v : Payload) (rest : List Payload) :
    walkItems onId onOther path i (v :: rest) =
      (walkAt onId onOther .plain (itemPath path i) v).cons (walkItems onId onOther path (i + 1) rest) := by
  rw [walkItems, walkAt_plain]

theorem walkIds_cons (path : String) (i : Nat) (v : Payload) (rest : List Payload) :
    walkIds onId onOther path i (v :: rest) =
      (walkAt onId onOther .id (itemPath path i) v).cons (walkIds onId onOther path (i + 1) rest) := by
  rw [walkIds]
  cases v <;> rfl

/-- The items of an array at a place. -/
def walkItemsAt (place : Place) (path : String) (i : Nat) (items : List Payload) : Visited ω (List Payload) :=
  if place = .ids then walkIds onId onOther path i items else walkItems onId onOther path i items

theorem walkItemsAt_nil (place : Place) (path : String) (i : Nat) :
    walkItemsAt onId onOther place path i [] = { value := [], found := [] } := by
  unfold walkItemsAt
  split_ifs <;> rfl

theorem walkItemsAt_cons (place : Place) (path : String) (i : Nat) (v : Payload) (rest : List Payload) :
    walkItemsAt onId onOther place path i (v :: rest) =
      (walkAt onId onOther place.item (itemPath path i) v).cons (walkItemsAt onId onOther place path (i + 1) rest) := by
  unfold walkItemsAt
  cases place
  · exact walkItems_cons onId onOther path i v rest
  · exact walkIds_cons onId onOther path i v rest
  · exact walkItems_cons onId onOther path i v rest
  · exact walkItems_cons onId onOther path i v rest

theorem walkAt_arr (place : Place) (path : String) (items : List Payload) :
    walkAt onId onOther place path (.arr items) = (walkItemsAt onId onOther place path 0 items).map .arr := rfl

theorem walkAt_obj (place : Place) (path : String) (fields : List (String × Payload)) :
    walkAt onId onOther place path (.obj fields) = (walkFields onId onOther path fields).map .obj := rfl

theorem walkAt_embedded (path : String) (d : Payload) :
    walkAt onId onOther .embedded path (.document d) =
      (walkAt onId onOther .plain path d).map fun out => .document (written out) := by
  rw [walkAt_plain]
  rfl

theorem walkAt_id {place : Place} {v : Payload} (isId : InIdPosition place v) (path : String) :
    walkAt onId onOther place path v = onId path v := by
  obtain ⟨rfl, scalar⟩ := isId
  cases v <;> first | rfl | cases scalar

theorem walkAt_other {place : Place} {v : Payload} (isOther : IsOther place v) (path : String) :
    walkAt onId onOther place path v = onOther path v := by
  cases v with
  | document d =>
    obtain ⟨notId, notEmbedded⟩ := isOther
    rw [walkAt, if_neg notEmbedded, if_neg notId]
  | num n => exact if_neg isOther
  | str s => exact if_neg isOther
  | arr items => exact isOther.elim
  | obj fields => exact isOther.elim
  | _ => rfl

/-! What a walk finds. -/

theorem item_found {place : Place} {items : List Payload} {v : Payload} (member : v ∈ items) (path : String) (i : Nat) :
    ∃ p, ∀ x ∈ (walkAt onId onOther place.item p v).found, x ∈ (walkItemsAt onId onOther place path i items).found := by
  induction items generalizing i with
  | nil => cases member
  | cons first rest ih =>
    rw [walkItemsAt_cons]
    rcases List.mem_cons.mp member with rfl | later
    · exact ⟨_, fun x inside => List.mem_append_left _ inside⟩
    · obtain ⟨p, found⟩ := ih later (i + 1)
      exact ⟨p, fun x inside => List.mem_append_right _ (found x inside)⟩

theorem field_found {fields : List (String × Payload)} {k : String} {v : Payload} (member : (k, v) ∈ fields) (path : String) :
    ∃ p, ∀ x ∈ (walkAt onId onOther (placeOf k) p v).found, x ∈ (walkFields onId onOther path fields).found := by
  induction fields with
  | nil => cases member
  | cons first rest ih =>
    obtain ⟨k', v'⟩ := first
    rw [walkFields_cons]
    rcases List.mem_cons.mp member with same | later
    · obtain ⟨rfl, rfl⟩ := Prod.mk.inj same
      exact ⟨_, fun x inside => List.mem_append_left _ inside⟩
    · obtain ⟨p, found⟩ := ih later
      exact ⟨p, fun x inside => List.mem_append_right _ (found x inside)⟩

/-- The walk visits every value that stands somewhere within the payload. -/
theorem walkAt_visits {place q : Place} {v w : Payload} (within : Within place v q w) (path : String) :
    ∃ p, ∀ x ∈ (walkAt onId onOther q p w).found, x ∈ (walkAt onId onOther place path v).found := by
  induction within generalizing path with
  | here => exact ⟨path, fun _ inside => inside⟩
  | item member _ ih =>
    obtain ⟨p, found⟩ := item_found onId onOther member path 0
    obtain ⟨p', foundWithin⟩ := ih p
    exact ⟨p', fun x inside => found x (foundWithin x inside)⟩
  | field member _ ih =>
    obtain ⟨p, found⟩ := field_found onId onOther member path
    obtain ⟨p', foundWithin⟩ := ih p
    exact ⟨p', fun x inside => found x (foundWithin x inside)⟩
  | document _ ih =>
    rw [walkAt_embedded]
    exact ih path

/-- What a walk finds, it finds at a leaf. -/
def FoundAtLeaf (place : Place) (v : Payload) (x : ω) : Prop :=
  ∃ q w p, Within place v q w ∧
    ((InIdPosition q w ∧ x ∈ (onId p w).found) ∨ (IsOther q w ∧ x ∈ (onOther p w).found))

theorem items_foundAtLeaf {place : Place} {items : List Payload}
    (each : ∀ v ∈ items, ∀ path, ∀ x ∈ (walkAt onId onOther place.item path v).found, FoundAtLeaf onId onOther place.item v x)
    {path : String} {i : Nat} {x : ω} (found : x ∈ (walkItemsAt onId onOther place path i items).found) :
    ∃ v ∈ items, FoundAtLeaf onId onOther place.item v x := by
  induction items generalizing i with
  | nil =>
    rw [walkItemsAt_nil] at found
    cases found
  | cons first rest ih =>
    obtain ⟨eachFirst, eachRest⟩ := List.forall_mem_cons.mp each
    rw [walkItemsAt_cons] at found
    rcases List.mem_append.mp found with inFirst | inRest
    · exact ⟨first, List.mem_cons_self, eachFirst _ x inFirst⟩
    · obtain ⟨v, member, atLeaf⟩ := ih eachRest inRest
      exact ⟨v, List.mem_cons_of_mem first member, atLeaf⟩

theorem fields_foundAtLeaf {fields : List (String × Payload)}
    (each : ∀ k v, (k, v) ∈ fields → ∀ path, ∀ x ∈ (walkAt onId onOther (placeOf k) path v).found,
      FoundAtLeaf onId onOther (placeOf k) v x)
    {path : String} {x : ω} (found : x ∈ (walkFields onId onOther path fields).found) :
    ∃ k v, (k, v) ∈ fields ∧ FoundAtLeaf onId onOther (placeOf k) v x := by
  induction fields with
  | nil => cases found
  | cons first rest ih =>
    obtain ⟨k, v⟩ := first
    rw [walkFields_cons] at found
    rcases List.mem_append.mp found with inFirst | inRest
    · exact ⟨k, v, List.mem_cons_self, each k v List.mem_cons_self _ x inFirst⟩
    · obtain ⟨k', v', member, atLeaf⟩ := ih (fun k' v' member => each k' v' (List.mem_cons_of_mem _ member)) inRest
      exact ⟨k', v', List.mem_cons_of_mem _ member, atLeaf⟩

theorem walkAt_foundAtLeaf (place : Place) (v : Payload) :
    ∀ path, ∀ x ∈ (walkAt onId onOther place path v).found, FoundAtLeaf onId onOther place v x := by
  induction place, v using place_induction with
  | leafId place v isId =>
    intro path x found
    rw [walkAt_id onId onOther isId] at found
    exact ⟨place, v, path, .here, .inl ⟨isId, found⟩⟩
  | other place v isOther =>
    intro path x found
    rw [walkAt_other onId onOther isOther] at found
    exact ⟨place, v, path, .here, .inr ⟨isOther, found⟩⟩
  | document d ih =>
    intro path x found
    rw [walkAt_embedded] at found
    obtain ⟨q, w, p, within, atLeaf⟩ := ih path x found
    exact ⟨q, w, p, .document within, atLeaf⟩
  | arr place items ih =>
    intro path x found
    rw [walkAt_arr] at found
    obtain ⟨v, member, q, w, p, within, atLeaf⟩ := items_foundAtLeaf onId onOther ih found
    exact ⟨q, w, p, .item member within, atLeaf⟩
  | obj place fields ih =>
    intro path x found
    rw [walkAt_obj] at found
    obtain ⟨k, v, member, q, w, p, within, atLeaf⟩ := fields_foundAtLeaf onId onOther ih found
    exact ⟨q, w, p, .field member within, atLeaf⟩

end

/-! What rewriting is for. -/

section
variable (keep : String → Bool) (write swap : Payload → Payload)

mutual
/-- The values in id positions are swapped, every other leaf stays as it is. -/
def swapAt (place : Place) : Payload → Payload
  | .document d =>
    if place = .embedded then .document (write (swapAt .plain d)) else if place = .id then swap (.document d) else .document d
  | .arr items => .arr (swapItems place.item items)
  | .obj fields => .obj (swapFields fields)
  | .num n => if place = .id then swap (.num n) else .num n
  | .str s => if place = .id then swap (.str s) else .str s
  | v => v

def swapItems (place : Place) : List Payload → List Payload
  | [] => []
  | v :: rest => swapAt place v :: swapItems place rest

def swapFields : List (String × Payload) → List (String × Payload)
  | [] => []
  | (k, v) :: rest => if keep k then (k, swapAt (placeOf k) v) :: swapFields rest else swapFields rest
end

theorem swapItems_eq (place : Place) (items : List Payload) :
    swapItems keep write swap place items = items.map (swapAt keep write swap place) := by
  induction items with
  | nil => rfl
  | cons v rest ih => rw [swapItems, ih, List.map_cons]

theorem swapFields_eq (fields : List (String × Payload)) :
    swapFields keep write swap fields = (fields.filter fun field => keep field.1).map fun field =>
      (field.1, swapAt keep write swap (placeOf field.1) field.2) := by
  induction fields with
  | nil => rfl
  | cons field rest ih =>
    obtain ⟨k, v⟩ := field
    rw [swapFields, ih]
    cases isKept : keep k <;> simp [isKept]

theorem swapAt_id {place : Place} {v : Payload} (isId : InIdPosition place v) : swapAt keep write swap place v = swap v := by
  obtain ⟨rfl, scalar⟩ := isId
  cases v <;> first | rfl | cases scalar

theorem swapAt_other {place : Place} {v : Payload} (isOther : IsOther place v) : swapAt keep write swap place v = v := by
  cases v with
  | document d =>
    obtain ⟨notId, notEmbedded⟩ := isOther
    rw [swapAt, if_neg notEmbedded, if_neg notId]
  | num n => exact if_neg isOther
  | str s => exact if_neg isOther
  | arr items => exact isOther.elim
  | obj fields => exact isOther.elim
  | _ => rfl

theorem swapAt_embedded (d : Payload) :
    swapAt keep write swap .embedded (.document d) = .document (write (swapAt keep write swap .plain d)) := rfl

end

/-! What stands within each kind of value. -/

theorem within_leaf {place q : Place} {v u : Payload} (isLeaf : InIdPosition place v ∨ IsOther place v)
    (within : Within place v q u) : q = place ∧ u = v := by
  cases within with
  | here => exact ⟨rfl, rfl⟩
  | item => exact isLeaf.elim (fun isId => nomatch isId.2) False.elim
  | field => exact isLeaf.elim (fun isId => nomatch isId.2) False.elim
  | document => exact isLeaf.elim (fun isId => nomatch isId.1) fun isOther => absurd rfl isOther.2

theorem within_document {q : Place} {d u : Payload} (within : Within .embedded (.document d) q u) :
    (q = .embedded ∧ u = .document d) ∨ Within .plain d q u := by
  cases within with
  | here => exact .inl ⟨rfl, rfl⟩
  | document inside => exact .inr inside

theorem within_arr {place q : Place} {items : List Payload} {u : Payload} (within : Within place (.arr items) q u) :
    (q = place ∧ u = .arr items) ∨ ∃ v ∈ items, Within place.item v q u := by
  cases within with
  | here => exact .inl ⟨rfl, rfl⟩
  | item member inside => exact .inr ⟨_, member, inside⟩

theorem within_obj {place q : Place} {fields : List (String × Payload)} {u : Payload} (within : Within place (.obj fields) q u) :
    (q = place ∧ u = .obj fields) ∨ ∃ k v, (k, v) ∈ fields ∧ Within (placeOf k) v q u := by
  cases within with
  | here => exact .inl ⟨rfl, rfl⟩
  | field member inside => exact .inr ⟨_, _, member, inside⟩

/-! What a text keeps of the numbers. -/

theorem writtenItems_eq (items : List Payload) : writtenItems items = items.map written := by
  induction items with
  | nil => rfl
  | cons v rest ih => rw [writtenItems, ih, List.map_cons]

theorem writtenFields_eq (fields : List (String × Payload)) :
    writtenFields fields = fields.map fun field => (field.1, written field.2) := by
  induction fields with
  | nil => rfl
  | cons field rest ih =>
    obtain ⟨k, v⟩ := field
    rw [writtenFields, ih, List.map_cons]

theorem written_infinite {n : ℚ} (infinite : isInfinite n = true) : written (.num n) = .null := by
  rw [written, if_pos infinite]

theorem written_finite {n : ℚ} (finite : isInfinite n = false) : written (.num n) = .num n := by
  rw [written, finite]
  rfl

theorem written_written (v : Payload) : written (written v) = written v := by
  induction v using Payload.induct with
  | num n =>
    cases size : isInfinite n with
    | true =>
      rw [written_infinite size]
      rfl
    | false => rw [written_finite size, written_finite size]
  | arr items ih =>
    simp only [written, writtenItems_eq, List.map_map]
    exact congrArg _ (List.map_congr_left ih)
  | obj fields ih =>
    simp only [written, writtenFields_eq, List.map_map]
    exact congrArg _ (List.map_congr_left fun field member => congrArg (Prod.mk field.1) (ih field.1 field.2 member))
  | null | bool b | str s | document d ih => rfl

/-- A number of the text is one of the value. -/
theorem within_written (v : Payload) : ∀ place q n, Within place (written v) q (.num n) → Within place v q (.num n) := by
  induction v using Payload.induct with
  | num m =>
    intro place q n within
    cases size : isInfinite m with
    | true =>
      rw [written_infinite size] at within
      cases within
    | false => rwa [written_finite size] at within
  | arr items ih =>
    intro place q n within
    rw [written, writtenItems_eq] at within
    rcases within_arr within with ⟨-, same⟩ | ⟨v', member, inside⟩
    · cases same
    · obtain ⟨v, isItem, rfl⟩ := List.mem_map.mp member
      exact .item isItem (ih v isItem place.item q n inside)
  | obj fields ih =>
    intro place q n within
    rw [written, writtenFields_eq] at within
    rcases within_obj within with ⟨-, same⟩ | ⟨k, v', member, inside⟩
    · cases same
    · obtain ⟨⟨k', v⟩, isField, same⟩ := List.mem_map.mp member
      obtain ⟨rfl, rfl⟩ := Prod.mk.inj same
      exact .field isField (ih k' v isField (placeOf k') q n inside)
  | null | bool b | str s | document d ih => exact fun place q n within => within

/-- Ids are swapped for numbers and texts, and not again. -/
structure SwapsIds (swap : Payload → Payload) : Prop where
  scalar : ∀ v : Payload, v.isScalar = true → (swap v).isScalar = true
  twice : ∀ v, swap (swap v) = swap v
  infinite : ∀ n, isInfinite n = true → swap (.num n) = .num n
  finite : ∀ v : Payload, v.isScalar = true → written v = v → written (swap v) = swap v

theorem written_scalar {v : Payload} (scalar : v.isScalar = true) :
    written v = v ∨ ∃ n, v = .num n ∧ isInfinite n = true := by
  cases v with
  | num n =>
    cases size : isInfinite n with
    | true => exact .inr ⟨n, rfl, size⟩
    | false => exact .inl (written_finite size)
  | str s => exact .inl rfl
  | document d => exact .inl rfl
  | null | bool b | arr items | obj fields => cases scalar

section
variable {keep : String → Bool} {swap : Payload → Payload}

/-- A number in the result is an id position's or the payload's own. -/
theorem number_swapAt (swaps : SwapsIds swap) (place : Place) (v : Payload) :
    ∀ q x, Within place (swapAt keep written swap place v) q (.num x) →
      ∃ w, Within place v q w ∧ ((InIdPosition q w ∧ .num x = swap w) ∨ (IsOther q w ∧ .num x = w)) := by
  induction place, v using place_induction with
  | leafId place v isId =>
    intro q x within
    rw [swapAt_id keep written swap isId] at within
    obtain ⟨rfl, same⟩ := within_leaf (.inl ⟨isId.1, swaps.scalar v isId.2⟩) within
    exact ⟨v, .here, .inl ⟨isId, same⟩⟩
  | other place v isOther =>
    intro q x within
    rw [swapAt_other keep written swap isOther] at within
    obtain ⟨rfl, same⟩ := within_leaf (.inr isOther) within
    exact ⟨v, .here, .inr ⟨isOther, same⟩⟩
  | document d ih =>
    intro q x within
    rcases within_document within with ⟨-, same⟩ | inside
    · cases same
    · obtain ⟨w, withinD, isLeaf⟩ := ih q x (within_written _ _ _ _ inside)
      exact ⟨w, .document withinD, isLeaf⟩
  | arr place items ih =>
    intro q x within
    rw [swapAt] at within
    rcases within_arr within with ⟨-, same⟩ | ⟨v', member, inside⟩
    · cases same
    · rw [swapItems_eq] at member
      obtain ⟨v, isItem, rfl⟩ := List.mem_map.mp member
      obtain ⟨w, withinItem, isLeaf⟩ := ih v isItem q x inside
      exact ⟨w, .item isItem withinItem, isLeaf⟩
  | obj place fields ih =>
    intro q x within
    rw [swapAt] at within
    rcases within_obj within with ⟨-, same⟩ | ⟨k, v', member, inside⟩
    · cases same
    · rw [swapFields_eq] at member
      obtain ⟨⟨k', v⟩, isField, same⟩ := List.mem_map.mp member
      obtain ⟨rfl, rfl⟩ := Prod.mk.inj same
      have isField := (List.mem_filter.mp isField).1
      obtain ⟨w, withinField, isLeaf⟩ := ih k' v isField q x inside
      exact ⟨w, .field isField withinField, isLeaf⟩

/-- A text is swapped as the value it is written of. -/
theorem swapAt_written (swaps : SwapsIds swap) (place : Place) (v : Payload) :
    swapAt keep written swap place (written v) = written (swapAt keep written swap place v) := by
  induction place, v using place_induction with
  | leafId place v isId =>
    rw [swapAt_id keep written swap isId]
    rcases written_scalar isId.2 with same | ⟨n, rfl, size⟩
    · rw [same, swapAt_id keep written swap isId, swaps.finite v isId.2 same]
    · rw [swaps.infinite n size, written_infinite size]
      rfl
  | other place v isOther =>
    rw [swapAt_other keep written swap isOther]
    cases v with
    | num n =>
      cases size : isInfinite n with
      | true =>
        rw [written_infinite size]
        rfl
      | false => rw [written_finite size, swapAt_other keep written swap isOther]
    | arr items => exact isOther.elim
    | obj fields => exact isOther.elim
    | null | bool b | str s | document d => exact swapAt_other keep written swap isOther
  | document d ih => rfl
  | arr place items ih =>
    simp only [written, swapAt, swapItems_eq, writtenItems_eq, List.map_map]
    exact congrArg _ (List.map_congr_left ih)
  | obj place fields ih =>
    simp only [written, swapAt, swapFields_eq, writtenFields_eq, List.filter_map, List.map_map]
    refine congrArg _ (List.map_congr_left fun field member => congrArg (Prod.mk field.1) ?_)
    exact ih field.1 field.2 (List.mem_filter.mp member).1

/-- Swapping again changes nothing. -/
theorem swapAt_swapAt (swaps : SwapsIds swap) (place : Place) (v : Payload) :
    swapAt keep written swap place (swapAt keep written swap place v) = swapAt keep written swap place v := by
  induction place, v using place_induction with
  | leafId place v isId =>
    rw [swapAt_id keep written swap isId, swapAt_id keep written swap ⟨isId.1, swaps.scalar v isId.2⟩, swaps.twice]
  | other place v isOther => rw [swapAt_other keep written swap isOther, swapAt_other keep written swap isOther]
  | document d ih => rw [swapAt_embedded, swapAt_embedded, swapAt_written swaps, ih, written_written]
  | arr place items ih =>
    simp only [swapAt, swapItems_eq, List.map_map]
    exact congrArg _ (List.map_congr_left fun v member => ih v member)
  | obj place fields ih =>
    rw [swapAt, swapAt]
    refine congrArg _ ?_
    induction fields with
    | nil => rfl
    | cons field rest ihRest =>
      obtain ⟨k, v⟩ := field
      have others := ihRest fun k' v' member => ih k' v' (List.mem_cons_of_mem _ member)
      rw [swapFields]
      cases isKept : keep k with
      | false => exact others
      | true =>
        rw [if_pos rfl, swapFields, isKept, if_pos rfl, others, ih k v List.mem_cons_self]

end

/-! What the walk loses. -/

/-- No object, embedded ones included, has a key named as the prototype. -/
def PlainKeys (place : Place) (v : Payload) : Prop :=
  ∀ q fields, Within place v q (.obj fields) → ∀ k w, (k, w) ∈ fields → k ≠ "__proto__"

/-- No embedded document holds an infinite number. -/
def FiniteDocuments (place : Place) (v : Payload) : Prop :=
  ∀ d q n, Within place v .embedded (.document d) → Within .plain d q (.num n) → isInfinite n = false

/-- Every number is finite. -/
def FiniteNumbers (place : Place) (v : Payload) : Prop :=
  ∀ q n, Within place v q (.num n) → isInfinite n = false

/-- What is kept of a value, or of one within a text, is what the walk leaves of it. -/
structure Keeps (inText : Bool) (place : Place) (v : Payload) : Prop where
  keys : PlainKeys place v
  documents : FiniteDocuments place v
  finite : inText = true → FiniteNumbers place v

section
variable {inText : Bool} {place : Place}

theorem keeps_leaf {v : Payload} (isLeaf : InIdPosition place v ∨ IsOther place v) :
    Keeps inText place v ↔ (inText = true → ∀ n, v = .num n → isInfinite n = false) := by
  refine ⟨fun keeps text n same => keeps.finite text place n (same ▸ .here), fun finite => ⟨?_, ?_, ?_⟩⟩
  · intro q fields within
    obtain ⟨-, rfl⟩ := within_leaf isLeaf within
    exact isLeaf.elim (fun isId => nomatch isId.2) False.elim
  · intro d q n within
    obtain ⟨rfl, rfl⟩ := within_leaf isLeaf within
    exact isLeaf.elim (fun isId => nomatch isId.1) fun isOther => absurd rfl isOther.2
  · intro text q n within
    obtain ⟨-, same⟩ := within_leaf isLeaf within
    exact finite text n same.symm

theorem keeps_document {d : Payload} : Keeps inText .embedded (.document d) ↔ Keeps true .plain d := by
  constructor
  · intro keeps
    exact
      { keys := fun q fields within => keeps.keys q fields (.document within)
        documents := fun d' q n within => keeps.documents d' q n (.document within)
        finite := fun _ q n within => keeps.documents d q n .here within }
  · intro keeps
    refine ⟨fun q fields within => ?_, fun d' q n within inside => ?_, fun _ q n within => ?_⟩
    · rcases within_document within with ⟨-, same⟩ | deeper
      · cases same
      · exact keeps.keys q fields deeper
    · rcases within_document within with ⟨-, same⟩ | deeper
      · obtain rfl := Payload.document.inj same
        exact keeps.finite rfl q n inside
      · exact keeps.documents d' q n deeper inside
    · rcases within_document within with ⟨-, same⟩ | deeper
      · cases same
      · exact keeps.finite rfl q n deeper

theorem keeps_arr {items : List Payload} :
    Keeps inText place (.arr items) ↔ ∀ v ∈ items, Keeps inText place.item v := by
  constructor
  · intro keeps v member
    exact
      { keys := fun q fields within => keeps.keys q fields (.item member within)
        documents := fun d q n within => keeps.documents d q n (.item member within)
        finite := fun text q n within => keeps.finite text q n (.item member within) }
  · intro each
    refine ⟨fun q fields within => ?_, fun d q n within inside => ?_, fun text q n within => ?_⟩
    · rcases within_arr within with ⟨-, same⟩ | ⟨v, member, deeper⟩
      · cases same
      · exact (each v member).keys q fields deeper
    · rcases within_arr within with ⟨-, same⟩ | ⟨v, member, deeper⟩
      · cases same
      · exact (each v member).documents d q n deeper inside
    · rcases within_arr within with ⟨-, same⟩ | ⟨v, member, deeper⟩
      · cases same
      · exact (each v member).finite text q n deeper

theorem keeps_obj {fields : List (String × Payload)} :
    Keeps inText place (.obj fields) ↔ ∀ k v, (k, v) ∈ fields → k ≠ "__proto__" ∧ Keeps inText (placeOf k) v := by
  constructor
  · intro keeps k v member
    exact ⟨keeps.keys place fields .here k v member,
      { keys := fun q fields' within => keeps.keys q fields' (.field member within)
        documents := fun d q n within => keeps.documents d q n (.field member within)
        finite := fun text q n within => keeps.finite text q n (.field member within) }⟩
  · intro each
    refine ⟨fun q fields' within => ?_, fun d q n within inside => ?_, fun text q n within => ?_⟩
    · rcases within_obj within with ⟨-, same⟩ | ⟨k, v, member, deeper⟩
      · obtain rfl := Payload.obj.inj same
        exact fun k w member => (each k w member).1
      · exact (each k v member).2.keys q fields' deeper
    · rcases within_obj within with ⟨-, same⟩ | ⟨k, v, member, deeper⟩
      · cases same
      · exact (each k v member).2.documents d q n deeper inside
    · rcases within_obj within with ⟨-, same⟩ | ⟨k, v, member, deeper⟩
      · cases same
      · exact (each k v member).2.finite text q n deeper

end

/-- A value, or the text it is written as. -/
def kept (inText : Bool) (v : Payload) : Payload :=
  if inText then written v else v

theorem kept_leaf {v : Payload} (isLeaf : ∀ items fields, v ≠ .arr items ∧ v ≠ .obj fields) (inText : Bool) :
    kept inText v = v ↔ (inText = true → ∀ n, v = .num n → isInfinite n = false) := by
  cases inText with
  | false => exact iff_of_true rfl nofun
  | true =>
    cases v with
    | num n =>
      cases size : isInfinite n with
      | true =>
        refine iff_of_false (fun same => ?_) fun finite => by rw [finite rfl n rfl] at size; cases size
        rw [kept, if_pos rfl, written_infinite size] at same
        cases same
      | false =>
        refine iff_of_true (written_finite size) fun _ m same => ?_
        obtain rfl := Payload.num.inj same
        exact size
    | arr items => exact absurd rfl (isLeaf items []).1
    | obj fields => exact absurd rfl (isLeaf [] fields).2
    | null | bool b | str s | document d => exact iff_of_true rfl fun _ n same => nomatch same

theorem kept_document (inText : Bool) (d : Payload) : kept inText (.document d) = .document d := by
  cases inText <;> rfl

theorem kept_arr (inText : Bool) (items : List Payload) : kept inText (.arr items) = .arr (items.map (kept inText)) := by
  cases inText with
  | false => exact congrArg Payload.arr (List.map_id'' (fun _ => rfl) items).symm
  | true =>
    rw [kept, if_pos rfl, written, writtenItems_eq]
    rfl

theorem kept_obj (inText : Bool) (fields : List (String × Payload)) :
    kept inText (.obj fields) = .obj (fields.map fun field => (field.1, kept inText field.2)) := by
  cases inText with
  | false => exact congrArg Payload.obj (List.map_id'' (fun _ => rfl) fields).symm
  | true =>
    rw [kept, if_pos rfl, written, writtenFields_eq]
    rfl

section
variable {swap : Payload → Payload}

theorem swapFields_eq_iff (inText : Bool) (fields : List (String × Payload)) :
    (swapFields (fun k => k ≠ "__proto__") written swap fields).map (fun field => (field.1, kept inText field.2)) =
        swapFields (fun _ => true) id swap fields ↔
      ∀ k v, (k, v) ∈ fields → k ≠ "__proto__" ∧
        kept inText (swapAt (fun k => k ≠ "__proto__") written swap (placeOf k) v) =
          swapAt (fun _ => true) id swap (placeOf k) v := by
  induction fields with
  | nil => exact iff_of_true rfl fun _ _ member => absurd member List.not_mem_nil
  | cons field rest ih =>
    obtain ⟨k, v⟩ := field
    have split : (∀ k' v', (k', v') ∈ (k, v) :: rest → k' ≠ "__proto__" ∧
        kept inText (swapAt (fun k => k ≠ "__proto__") written swap (placeOf k') v') =
          swapAt (fun _ => true) id swap (placeOf k') v') ↔
        (k ≠ "__proto__" ∧ kept inText (swapAt (fun k => k ≠ "__proto__") written swap (placeOf k) v) =
          swapAt (fun _ => true) id swap (placeOf k) v) ∧
          ∀ k' v', (k', v') ∈ rest → k' ≠ "__proto__" ∧
            kept inText (swapAt (fun k => k ≠ "__proto__") written swap (placeOf k') v') =
              swapAt (fun _ => true) id swap (placeOf k') v' := by
      simp only [List.mem_cons, Prod.mk.injEq]
      exact ⟨fun all => ⟨all k v (.inl ⟨rfl, rfl⟩), fun k' v' member => all k' v' (.inr member)⟩,
        fun ⟨first, others⟩ k' v' member => member.elim (fun ⟨sameKey, same⟩ => sameKey ▸ same ▸ first) (others k' v')⟩
    rw [split, ← ih, swapFields, swapFields, if_pos rfl]
    by_cases isProto : k = "__proto__"
    · -- the key is dropped: the result is too short
      rw [if_neg (by simp [isProto])]
      refine iff_of_false (fun same => ?_) fun all => all.1.1 isProto
      have short := congrArg List.length same
      rw [List.length_cons, List.length_map, swapFields_eq, swapFields_eq, List.length_map, List.length_map,
        List.filter_true] at short
      have fewer := List.length_filter_le (fun field : String × Payload => decide (field.1 ≠ "__proto__")) rest
      omega
    · rw [if_pos (by simpa using isProto), List.map_cons, List.cons.injEq, Prod.mk.injEq]
      exact ⟨fun ⟨⟨_, same⟩, others⟩ => ⟨⟨isProto, same⟩, others⟩, fun ⟨⟨_, same⟩, others⟩ => ⟨⟨rfl, same⟩, others⟩⟩

theorem swapAt_eq_iff (swaps : SwapsIds swap) (place : Place) (v : Payload) : ∀ inText,
    kept inText (swapAt (fun k => k ≠ "__proto__") written swap place v) = swapAt (fun _ => true) id swap place v ↔
      Keeps inText place v := by
  induction place, v using place_induction with
  | leafId place v isId =>
    intro inText
    rw [swapAt_id _ _ _ isId, swapAt_id _ _ _ isId, keeps_leaf (.inl isId)]
    rcases written_scalar isId.2 with same | ⟨n, rfl, size⟩
    · refine iff_of_true ?_ fun _ n isNum => ?_
      · cases inText with
        | false => rfl
        | true => exact swaps.finite v isId.2 same
      · by_contra infinite
        rw [isNum, written_infinite (eq_true_of_ne_false infinite)] at same
        cases same
    · rw [swaps.infinite n size]
      exact kept_leaf (fun _ _ => ⟨Payload.noConfusion, Payload.noConfusion⟩) inText
  | other place v isOther =>
    intro inText
    rw [swapAt_other _ _ _ isOther, swapAt_other _ _ _ isOther, keeps_leaf (.inr isOther), kept_leaf]
    intro items fields
    refine ⟨fun same => ?_, fun same => ?_⟩
    · rw [same] at isOther
      exact isOther.elim
    · rw [same] at isOther
      exact isOther.elim
  | document d ih =>
    intro inText
    rw [swapAt_embedded, swapAt_embedded, kept_document, Payload.document.injEq, keeps_document, ← ih true]
    rfl
  | arr place items ih =>
    intro inText
    rw [swapAt, swapAt, kept_arr, Payload.arr.injEq, swapItems_eq, swapItems_eq, List.map_map, List.map_inj_left, keeps_arr]
    exact forall₂_congr fun v member => ih v member inText
  | obj place fields ih =>
    intro inText
    rw [swapAt, swapAt, kept_obj, Payload.obj.injEq, swapFields_eq_iff, keeps_obj]
    exact forall₃_congr fun k v member => and_congr_right fun _ => ih k v member inText

end

/-! Rewriting. -/

/-- What stands in an id position after rewriting: an offline id that has a server id is that server id. -/
def mappedId (lookup : Nat → Option Nat) (raw : Payload) : Payload :=
  match parseIdLike raw with
  | some n =>
    if isOfflineId n then
      match lookup n.toNat with
      | some server => serverValue raw server
      | none => raw
    else raw
  | none => raw

theorem rewriteId_value (lookup : Nat → Option Nat) (path : String) (raw : Payload) :
    (rewriteId lookup path raw).value = mappedId lookup raw := by
  unfold rewriteId mappedId
  split
  · next unread => rw [unread]
  · next n read =>
    rw [read]
    dsimp only
    split_ifs
    · split
      · next unmapped => rw [unmapped]
      · next server mapped => rw [mapped]
    · rfl

theorem walkItemsAt_value (lookup : Nat → Option Nat) {place : Place} {items : List Payload}
    (each : ∀ v ∈ items, ∀ path, (walkAt (rewriteId lookup) keepLeaf place.item path v).value =
      swapAt (fun k => k ≠ "__proto__") written (mappedId lookup) place.item v) (path : String) (i : Nat) :
    (walkItemsAt (rewriteId lookup) keepLeaf place path i items).value =
      swapItems (fun k => k ≠ "__proto__") written (mappedId lookup) place.item items := by
  induction items generalizing i with
  | nil =>
    rw [walkItemsAt_nil]
    rfl
  | cons v rest ih =>
    obtain ⟨first, others⟩ := List.forall_mem_cons.mp each
    rw [walkItemsAt_cons, swapItems, ← first (itemPath path i), ← ih others (i + 1)]
    rfl

theorem walkFields_value (lookup : Nat → Option Nat) {fields : List (String × Payload)}
    (each : ∀ k v, (k, v) ∈ fields → ∀ path, (walkAt (rewriteId lookup) keepLeaf (placeOf k) path v).value =
      swapAt (fun k => k ≠ "__proto__") written (mappedId lookup) (placeOf k) v) (path : String) :
    (walkFields (rewriteId lookup) keepLeaf path fields).value =
      swapFields (fun k => k ≠ "__proto__") written (mappedId lookup) fields := by
  induction fields with
  | nil => rfl
  | cons field rest ih =>
    obtain ⟨k, v⟩ := field
    rw [walkFields_cons, swapFields, ← each k v List.mem_cons_self (keyPath path k),
      ← ih fun k' v' member => each k' v' (List.mem_cons_of_mem _ member)]
    unfold Visited.assign
    by_cases isProto : k = "__proto__"
    · rw [if_pos isProto, if_neg (by simp [isProto])]
    · rw [if_neg isProto, if_pos (by simpa using isProto)]

/-- The walk swaps the id positions, and loses a key named as the prototype and an infinite number of a document. -/
theorem walkAt_value (lookup : Nat → Option Nat) (place : Place) (v : Payload) :
    ∀ path, (walkAt (rewriteId lookup) keepLeaf place path v).value =
      swapAt (fun k => k ≠ "__proto__") written (mappedId lookup) place v := by
  induction place, v using place_induction with
  | leafId place v isId =>
    intro path
    rw [walkAt_id _ _ isId, swapAt_id _ _ _ isId, rewriteId_value]
  | other place v isOther =>
    intro path
    rw [walkAt_other _ _ isOther, swapAt_other _ _ _ isOther]
    rfl
  | document d ih =>
    intro path
    rw [walkAt_embedded, swapAt_embedded, ← ih path]
    rfl
  | arr place items ih =>
    intro path
    rw [walkAt_arr, swapAt, ← walkItemsAt_value lookup ih path 0]
    rfl
  | obj place fields ih =>
    intro path
    rw [walkAt_obj, swapAt, ← walkFields_value lookup ih path]
    rfl

theorem rewriteIdPositions_payload (payload : Payload) (lookup : Nat → Option Nat) :
    (rewriteIdPositions payload lookup).payload =
      swapAt (fun k => k ≠ "__proto__") written (mappedId lookup) .plain payload := by
  rw [← walkAt_value lookup .plain payload "", walkAt_plain]
  rfl

/-! Ids that are given back. -/

theorem mappedId_scalar (lookup : Nat → Option Nat) (v : Payload) (scalar : v.isScalar = true) :
    (mappedId lookup v).isScalar = true := by
  unfold mappedId
  split
  · split_ifs
    · split
      · unfold serverValue
        split_ifs <;> rfl
      · exact scalar
    · exact scalar
  · exact scalar

theorem isOfflineId_small {n : Nat} (small : n < offlineIdFloor) : isOfflineId n = false := by
  unfold isOfflineId
  rw [Int.toNat_natCast, Bool.and_eq_false_iff]
  refine .inr (Bool.eq_false_iff.mpr fun isOffline => ?_)
  exact absurd (IdRange.isOfflineId_iff.mp isOffline).1 (not_le.mpr small)

/-- The text of a number of at most twelve digits is read as that number. -/
theorem parseIdLike_text {n : Nat} (small : n < offlineIdFloor) : parseIdLike (.str (toString n)) = some (n : ℤ) := by
  have text : (toString n).toList = Nat.toDigits 10 n := by rw [Nat.toString_eq_repr, Nat.toList_repr]
  have digits : ∀ c ∈ Nat.toDigits 10 n, c.isDigit = true := fun c member =>
    Nat.isDigit_of_mem_toDigits (by decide) (by decide) member
  have short : (Nat.toDigits 10 n).length ≤ 12 := (Nat.length_toDigits_le_iff (by decide) (by decide)).mpr small
  have safe : n ≤ maxSafeInteger := by
    unfold offlineIdFloor at small
    unfold maxSafeInteger
    omega
  unfold parseIdLike
  dsimp only
  rw [text, trim_noSpace fun c member => isSpace_digit (digits c member), if_pos ⟨List.all_eq_true.mpr digits, Nat.length_toDigits_pos, by omega⟩,
    Nat.ofDigitChars_ten_toDigits, if_pos safe]

theorem parseIdLike_num {n : Nat} (small : n < offlineIdFloor) : parseIdLike (.num n) = some (n : ℤ) := by
  have safe : n ≤ maxSafeInteger := by
    unfold offlineIdFloor at small
    unfold maxSafeInteger
    omega
  exact if_pos ⟨rfl, safe⟩

theorem mappedId_serverValue (lookup : Nat → Option Nat) (raw : Payload) {server : Nat} (small : server < offlineIdFloor) :
    mappedId lookup (serverValue raw server) = serverValue raw server := by
  have read : parseIdLike (serverValue raw server) = some (server : ℤ) := by
    unfold serverValue
    split_ifs
    · exact parseIdLike_text small
    · exact parseIdLike_num small
  unfold mappedId
  rw [read]
  dsimp only
  rw [if_neg (by rw [isOfflineId_small small]; exact Bool.false_ne_true)]

/-- A value is an offline id that has a server id, or it stays. -/
theorem mappedId_cases (lookup : Nat → Option Nat) (v : Payload) :
    (∃ n server, parseIdLike v = some n ∧ isOfflineId n = true ∧ lookup n.toNat = some server ∧
      mappedId lookup v = serverValue v server) ∨
    (mappedId lookup v = v ∧ ∀ n, parseIdLike v = some n → isOfflineId n = true → lookup n.toNat = none) := by
  unfold mappedId
  cases read : parseIdLike v with
  | none => exact .inr ⟨rfl, nofun⟩
  | some n =>
    dsimp only
    by_cases isOffline : isOfflineId n = true
    · rw [if_pos isOffline]
      cases mapped : lookup n.toNat with
      | none =>
        refine .inr ⟨rfl, fun m same _ => ?_⟩
        obtain rfl := Option.some.inj same
        exact mapped
      | some server => exact .inl ⟨n, server, rfl, isOffline, mapped, rfl⟩
    · rw [if_neg isOffline]
      refine .inr ⟨rfl, fun m same offline => ?_⟩
      obtain rfl := Option.some.inj same
      exact absurd offline isOffline

/-- A server id is no offline id: what is mapped stays. -/
theorem mappedId_mappedId {lookup : Nat → Option Nat} (small : ∀ n server, lookup n = some server → server < offlineIdFloor)
    (v : Payload) : mappedId lookup (mappedId lookup v) = mappedId lookup v := by
  rcases mappedId_cases lookup v with ⟨n, server, -, -, mapped, same⟩ | ⟨same, -⟩
  · rw [same]
    exact mappedId_serverValue lookup v (small _ server mapped)
  · rw [same, same]

/-- An infinite number is no id. -/
theorem mappedId_infinite (lookup : Nat → Option Nat) {n : ℚ} (infinite : isInfinite n = true) :
    mappedId lookup (.num n) = .num n := by
  have read : parseIdLike (.num n) = none := by
    refine if_neg fun ⟨whole, safe⟩ => ?_
    have isNum : (n.num : ℚ) = n := Rat.den_eq_one_iff n |>.mp whole
    have bounds : -(maxSafeInteger : ℤ) ≤ n.num ∧ n.num ≤ maxSafeInteger := by omega
    have lower : (-(maxSafeInteger : ℤ) : ℚ) ≤ n := isNum ▸ mod_cast bounds.1
    have upper : n ≤ (maxSafeInteger : ℚ) := isNum ▸ mod_cast bounds.2
    have limit : (maxSafeInteger : ℚ) < doubleLimit := by decide +kernel
    simp only [isInfinite, Bool.or_eq_true, decide_eq_true_eq] at infinite
    push_cast at lower
    rcases infinite with above | below
    · linarith
    · linarith
  rw [mappedId, read]

theorem serverValue_finite (raw : Payload) {server : Nat} (small : server < offlineIdFloor) :
    written (serverValue raw server) = serverValue raw server := by
  unfold serverValue
  split_ifs
  · rfl
  · refine written_finite ?_
    have below : (server : ℚ) < offlineIdFloor := mod_cast small
    have limit : (offlineIdFloor : ℚ) < doubleLimit := by decide +kernel
    have nonneg : (0 : ℚ) ≤ server := Nat.cast_nonneg server
    simp only [isInfinite, Bool.or_eq_false_iff, decide_eq_false_iff_not]
    exact ⟨by linarith, by linarith⟩

theorem mappedId_swapsIds {lookup : Nat → Option Nat} (small : ∀ n server, lookup n = some server → server < offlineIdFloor) :
    SwapsIds (mappedId lookup) where
  scalar := mappedId_scalar lookup
  twice := mappedId_mappedId small
  infinite _ size := mappedId_infinite lookup size
  finite v _ same := by
    rcases mappedId_cases lookup v with ⟨n, server, -, -, mapped, isServer⟩ | ⟨isRaw, -⟩
    · rw [isServer]
      exact serverValue_finite v (small _ server mapped)
    · rwa [isRaw]

/-! What the caller is told. -/

/-- An offline id in an id position. -/
def HasOfflineId (payload : Payload) (n : ℤ) : Prop :=
  ∃ place w, Within .plain payload place w ∧ InIdPosition place w ∧ parseIdLike w = some n ∧ isOfflineId n = true

theorem unmapped_found {lookup : Nat → Option Nat} {path : String} {w : Payload} {n : ℤ} :
    Rewriting.unmapped n ∈ (rewriteId lookup path w).found ↔
      parseIdLike w = some n ∧ isOfflineId n = true ∧ lookup n.toNat = none := by
  unfold rewriteId
  cases parseIdLike w with
  | none => simp
  | some m =>
    dsimp only
    by_cases isOffline : isOfflineId m = true
    · rw [if_pos isOffline]
      cases mapped : lookup m.toNat with
      | none =>
        simp only [List.mem_singleton, Rewriting.unmapped.injEq, Option.some.injEq]
        exact ⟨fun same => ⟨same.symm, same ▸ isOffline, same ▸ mapped⟩, fun ⟨same, _⟩ => same.symm⟩
      | some server =>
        simp only [List.mem_singleton, reduceCtorEq, Option.some.injEq, false_iff]
        rintro ⟨rfl, -, none⟩
        rw [mapped] at none
        cases none
    · rw [if_neg isOffline]
      simp only [List.not_mem_nil, Option.some.injEq, false_iff]
      rintro ⟨rfl, offline, -⟩
      exact isOffline offline

theorem mem_unmapped {payload : Payload} {lookup : Nat → Option Nat} {n : ℤ} :
    n ∈ (rewriteIdPositions payload lookup).unmapped ↔ HasOfflineId payload n ∧ lookup n.toNat = none := by
  have told : n ∈ (rewriteIdPositions payload lookup).unmapped ↔
      Rewriting.unmapped n ∈ (walkAt (rewriteId lookup) keepLeaf .plain "" payload).found := by
    rw [walkAt_plain]
    simp only [rewriteIdPositions, List.mem_eraseDups, List.mem_filterMap]
    constructor
    · rintro ⟨r, found, isUnmapped⟩
      cases r with
      | unmapped m =>
        obtain rfl := Option.some.inj isUnmapped
        exact found
      | rewritten => cases isUnmapped
    · exact fun found => ⟨.unmapped n, found, rfl⟩
  rw [told]
  constructor
  · intro found
    obtain ⟨place, w, p, within, ⟨isId, atLeaf⟩ | ⟨-, atLeaf⟩⟩ := walkAt_foundAtLeaf _ _ .plain payload "" _ found
    · obtain ⟨read, isOffline, none⟩ := unmapped_found.mp atLeaf
      exact ⟨⟨place, w, within, isId, read, isOffline⟩, none⟩
    · cases atLeaf
  · rintro ⟨⟨place, w, within, isId, read, isOffline⟩, none⟩
    obtain ⟨p, found⟩ := walkAt_visits (rewriteId lookup) keepLeaf within ""
    refine found _ ?_
    rw [walkAt_id _ _ isId]
    exact unmapped_found.mpr ⟨read, isOffline, none⟩

theorem collected_found {path : String} {w : Payload} {n : ℤ} :
    (∃ position ∈ (collectId path w).found, position.value = n) ↔ parseIdLike w = some n := by
  unfold collectId
  cases parseIdLike w with
  | none => simp
  | some m =>
    simp only [List.mem_singleton, exists_eq_left, Option.some.injEq]

/-- The recorder sees the ids that the server rewrites or reports. -/
theorem mem_offlineIdsInPositions {payload : Payload} {n : ℤ} :
    n ∈ offlineIdsInPositions payload ↔ HasOfflineId payload n := by
  have told : n ∈ offlineIdsInPositions payload ↔
      (∃ position ∈ (walkAt collectId keepLeaf .plain "" payload).found, position.value = n) ∧ isOfflineId n = true := by
    rw [walkAt_plain]
    simp only [offlineIdsInPositions, collectIdPositions, List.mem_eraseDups, List.mem_filter, List.mem_map]
  rw [told]
  constructor
  · rintro ⟨⟨position, found, same⟩, isOffline⟩
    obtain ⟨place, w, p, within, ⟨isId, atLeaf⟩ | ⟨-, atLeaf⟩⟩ := walkAt_foundAtLeaf _ _ .plain payload "" _ found
    · exact ⟨place, w, within, isId, collected_found.mp ⟨position, atLeaf, same⟩, isOffline⟩
    · cases atLeaf
  · rintro ⟨place, w, within, isId, read, isOffline⟩
    obtain ⟨p, found⟩ := walkAt_visits collectId keepLeaf within ""
    rw [walkAt_id _ _ isId] at found
    obtain ⟨position, atLeaf, same⟩ := collected_found.mpr read
    exact ⟨⟨position, found position atLeaf, same⟩, isOffline⟩

/-- An admitted payload has no offline number outside the id positions. -/
theorem admits_other {payload : Payload} (admitted : admits payload = true) {place : Place} {x : ℚ}
    (within : Within .plain payload place (.num x)) (isOther : place ≠ .id) : isOfflineNumber x = false := by
  have none : (walkAt keepLeaf outsideLeaf .plain "" payload).found = [] := by
    rw [walkAt_plain]
    exact List.isEmpty_iff.mp admitted
  obtain ⟨p, found⟩ := walkAt_visits keepLeaf outsideLeaf within ""
  rw [none, walkAt_other _ _ (show IsOther place (.num x) from isOther)] at found
  by_contra isOffline
  refine absurd (found (p, x) ?_) List.not_mem_nil
  unfold outsideLeaf
  rw [Bool.not_eq_false] at isOffline
  dsimp only
  rw [if_pos isOffline]
  exact List.mem_singleton_self _

/-- An offline number in an id position is read as an id. -/
theorem parseIdLike_offline {x : ℚ} (isOffline : isOfflineNumber x = true) :
    parseIdLike (.num x) = some x.num ∧ isOfflineId x.num = true := by
  unfold isOfflineNumber at isOffline
  rw [Bool.and_eq_true, decide_eq_true_iff] at isOffline
  obtain ⟨whole, isOffline⟩ := isOffline
  have inRange := isOffline
  unfold isOfflineId at inRange
  rw [Bool.and_eq_true, decide_eq_true_iff, IdRange.isOfflineId_iff] at inRange
  have safe : x.num.natAbs ≤ maxSafeInteger := by omega
  exact ⟨if_pos ⟨whole, safe⟩, isOffline⟩

/-- An id position is clean once its id is mapped. -/
theorem mappedId_clean {lookup : Nat → Option Nat} (small : ∀ n server, lookup n = some server → server < offlineIdFloor)
    {v : Payload} (mapped : ∀ n, parseIdLike v = some n → isOfflineId n = true → lookup n.toNat ≠ none) {x : ℚ}
    (same : Payload.num x = mappedId lookup v) : isOfflineNumber x = false := by
  rcases mappedId_cases lookup v with ⟨n, server, -, -, hasServer, isServer⟩ | ⟨isRaw, unmapped⟩
  · rw [isServer, serverValue] at same
    split_ifs at same
    obtain rfl := Payload.num.inj same
    rw [isOfflineNumber, Rat.num_natCast, isOfflineId_small (small _ server hasServer), Bool.and_false]
  · rw [isRaw] at same
    by_contra isOffline
    obtain ⟨read, isOffline⟩ := parseIdLike_offline (eq_true_of_ne_false isOffline)
    rw [same] at read
    exact mapped _ read isOffline (unmapped _ read isOffline)

/-- Nothing of the offline range is left in the numbers. -/
theorem rewriteIdPositions_clean {payload : Payload} {lookup : Nat → Option Nat}
    (small : ∀ n server, lookup n = some server → server < offlineIdFloor) (admitted : admits payload = true)
    (mapped : (rewriteIdPositions payload lookup).unmapped = []) {place : Place} {x : ℚ}
    (within : Within .plain (rewriteIdPositions payload lookup).payload place (.num x)) : isOfflineNumber x = false := by
  rw [rewriteIdPositions_payload] at within
  obtain ⟨w, withinPayload, ⟨inPosition, same⟩ | ⟨isOther, rfl⟩⟩ :=
    number_swapAt (mappedId_swapsIds small) .plain payload place x within
  · refine mappedId_clean small (fun n read isOffline noServer => ?_) same
    have isUnmapped := mem_unmapped.mpr ⟨⟨place, w, withinPayload, inPosition, read, isOffline⟩, noServer⟩
    rw [mapped] at isUnmapped
    cases isUnmapped
  · exact admits_other admitted withinPayload isOther

/-- The id positions are rewritten and nothing else, where no key is named as the prototype and no embedded document holds an
infinite number; the ids that have no server id are told, rewriting again changes nothing, and of an admitted payload no number
of the offline range is left. -/
theorem rewriteIdPositions_exact (lookup : Nat → Option Nat)
    (small : ∀ n server, lookup n = some server → server < offlineIdFloor) (payload : Payload) :
    ((rewriteIdPositions payload lookup).payload = swapAt (fun _ => true) id (mappedId lookup) .plain payload ↔
      PlainKeys .plain payload ∧ FiniteDocuments .plain payload) ∧
    (∀ n, n ∈ (rewriteIdPositions payload lookup).unmapped ↔ HasOfflineId payload n ∧ lookup n.toNat = none) ∧
    (rewriteIdPositions (rewriteIdPositions payload lookup).payload lookup).payload =
      (rewriteIdPositions payload lookup).payload ∧
    (admits payload = true → (rewriteIdPositions payload lookup).unmapped = [] → ∀ place x,
      Within .plain (rewriteIdPositions payload lookup).payload place (.num x) → isOfflineNumber x = false) := by
  have swaps := mappedId_swapsIds small
  refine ⟨?_, fun n => mem_unmapped, ?_, fun admitted mapped place x within => rewriteIdPositions_clean small admitted mapped within⟩
  · rw [rewriteIdPositions_payload]
    exact (swapAt_eq_iff swaps .plain payload false).trans
      ⟨fun keeps => ⟨keeps.keys, keeps.documents⟩, fun ⟨keys, documents⟩ => ⟨keys, documents, nofun⟩⟩
  · rw [rewriteIdPositions_payload, rewriteIdPositions_payload]
    exact swapAt_swapAt swaps .plain payload

/-! A client, a list of clients and a document about one, as a PC knows them. -/

def clientPayload : Payload :=
  .obj [("client_id", .num 1017000000001), ("clientIds", .arr [.str "1017000000001", .num 3]),
    ("form_data", .document (.obj [("clientId", .num 1017000000001), ("amount", .num 150000)]))]

def clientLookup (n : Nat) : Option Nat :=
  if n = 1017000000001 then some 7 else none

theorem rewriteIdPositions_exact_client : (rewriteIdPositions clientPayload clientLookup).payload =
    .obj [("client_id", .num 7), ("clientIds", .arr [.str "7", .num 3]),
      ("form_data", .document (.obj [("clientId", .num 7), ("amount", .num 150000)]))] := by
  have exact := rewriteIdPositions_exact clientLookup (fun n server mapped => by
    unfold clientLookup at mapped
    split_ifs at mapped
    obtain rfl := Option.some.inj mapped
    decide) clientPayload
  have leaf (inText : Bool) (place : Place) (n : ℚ) (finite : isInfinite n = false) : Keeps inText place (.num n) := by
    refine (keeps_leaf ?_).mpr fun _ m same => Payload.num.inj same ▸ finite
    by_cases isId : place = .id
    · exact .inl ⟨isId, rfl⟩
    · exact .inr isId
  have keeps : Keeps false .plain clientPayload := by
    refine keeps_obj.mpr fun k v member => ?_
    simp only [List.mem_cons, List.not_mem_nil, or_false, Prod.mk.injEq] at member
    rcases member with ⟨rfl, rfl⟩ | ⟨rfl, rfl⟩ | ⟨rfl, rfl⟩
    · exact ⟨by decide, leaf _ _ _ (by decide +kernel)⟩
    · refine ⟨by decide, keeps_arr.mpr fun v member => ?_⟩
      rcases List.mem_pair.mp member with rfl | rfl
      · exact (keeps_leaf (.inl ⟨rfl, rfl⟩)).mpr nofun
      · exact leaf _ _ _ (by decide +kernel)
    · refine ⟨by decide, keeps_document.mpr (keeps_obj.mpr fun k v member => ?_)⟩
      simp only [List.mem_cons, List.not_mem_nil, or_false, Prod.mk.injEq] at member
      rcases member with ⟨rfl, rfl⟩ | ⟨rfl, rfl⟩
      · exact ⟨by decide, leaf _ _ _ (by decide +kernel)⟩
      · exact ⟨by decide, leaf _ _ _ (by decide +kernel)⟩
  rw [exact.1.mpr ⟨keeps.keys, keeps.documents⟩]
  rfl

/-- An embedded document with a key named as the prototype loses what stands there. -/
theorem rewriteIdPositions_prototype :
    (rewriteIdPositions (.obj [("form_data", .document (.obj [("__proto__", .num 5)]))]) fun _ => none).payload =
      .obj [("form_data", .document (.obj []))] ∧
    swapAt (fun _ => true) id (mappedId fun _ => none) .plain (.obj [("form_data", .document (.obj [("__proto__", .num 5)]))]) =
      .obj [("form_data", .document (.obj [("__proto__", .num 5)]))] ∧
    (rewriteIdPositions (.obj [("form_data", .document (.obj [("__proto__", .num 5)]))]) fun _ => none).payload ≠
      swapAt (fun _ => true) id (mappedId fun _ => none) .plain
        (.obj [("form_data", .document (.obj [("__proto__", .num 5)]))]) :=
  ⟨rfl, rfl, nofun⟩

/-- An embedded document with the literal 1e400 loses it. -/
theorem rewriteIdPositions_infinite :
    (rewriteIdPositions (.obj [("form_data", .document (.obj [("a", .num (10 ^ 400))]))]) fun _ => none).payload =
      .obj [("form_data", .document (.obj [("a", .null)]))] ∧
    swapAt (fun _ => true) id (mappedId fun _ => none) .plain (.obj [("form_data", .document (.obj [("a", .num (10 ^ 400))]))]) =
      .obj [("form_data", .document (.obj [("a", .num (10 ^ 400))]))] := by
  have infinite : isInfinite (10 ^ 400) = true := by decide +kernel
  have text : written (.obj [("a", .num (10 ^ 400))]) = .obj [("a", .null)] := by
    rw [written, writtenFields, written_infinite infinite, writtenFields]
  exact ⟨congrArg (fun d => Payload.obj [("form_data", .document d)]) text, rfl⟩

end Liratek.Offline.IdPositions

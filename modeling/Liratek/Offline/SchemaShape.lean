import Mathlib.Data.List.Nodup
import Mathlib.Data.Rat.Defs
import Mathlib.Order.Basic
import Mathlib.Tactic.SplitIfs

/-! The shape of a schema: what an offline event's payload was parsed with, compared with today's schema at replay. -/

namespace Liratek.Offline.SchemaShape

inductive Json where
  | null
  | bool (b : Bool)
  | num (n : ℚ)
  | str (s : String)
  | arr (items : List Json)
  | obj (fields : List (String × Json))

/-- A value of an enumeration or a literal. -/
inductive Literal where
  | null
  | bool (b : Bool)
  | num (n : ℚ)
  | str (s : String)
  deriving DecidableEq, Repr

structure ShapeFlags where
  optional : Bool := false
  nullable : Bool := false
  hasDefault : Bool := false
  /-- the JSON text of the default, where it has one -/
  default : Option String := none
  deriving DecidableEq, Repr

/-- What a type does not have is empty. A record is the list of its entries in the order of their keys, so two nodes have
the same canonical JSON when they are equal. -/
inductive ShapeNode where
  | mk (type : String) (flags : ShapeFlags) (keys : List (String × ShapeNode)) (extraKeys : Bool) (element : Option ShapeNode)
    (options : List ShapeNode) (values : List Literal)

namespace ShapeNode

def type : ShapeNode → String
  | .mk type _ _ _ _ _ _ => type

def flags : ShapeNode → ShapeFlags
  | .mk _ flags _ _ _ _ _ => flags

def keys : ShapeNode → List (String × ShapeNode)
  | .mk _ _ keys _ _ _ _ => keys

def extraKeys : ShapeNode → Bool
  | .mk _ _ _ extraKeys _ _ _ => extraKeys

def element : ShapeNode → Option ShapeNode
  | .mk _ _ _ _ element _ _ => element

def options : ShapeNode → List ShapeNode
  | .mk _ _ _ _ _ options _ => options

mutual
def decEq : (a b : ShapeNode) → Decidable (a = b)
  | .mk type flags keys extraKeys element options values, .mk type' flags' keys' extraKeys' element' options' values' =>
    have := decEqKeys keys keys'
    have := decEqElement element element'
    have := decEqOptions options options'
    decidable_of_iff (type = type' ∧ flags = flags' ∧ keys = keys' ∧ extraKeys = extraKeys' ∧ element = element' ∧
      options = options' ∧ values = values') (by rw [ShapeNode.mk.injEq])

def decEqKeys : (a b : List (String × ShapeNode)) → Decidable (a = b)
  | [], [] => .isTrue rfl
  | [], _ :: _ => .isFalse nofun
  | _ :: _, [] => .isFalse nofun
  | (k, n) :: rest, (k', n') :: rest' =>
    have := decEq n n'
    have := decEqKeys rest rest'
    decidable_of_iff (k = k' ∧ n = n' ∧ rest = rest') (by rw [List.cons.injEq, Prod.mk.injEq, and_assoc])

def decEqElement : (a b : Option ShapeNode) → Decidable (a = b)
  | none, none => .isTrue rfl
  | none, some _ => .isFalse nofun
  | some _, none => .isFalse nofun
  | some n, some n' =>
    have := decEq n n'
    decidable_of_iff (n = n') (by rw [Option.some.injEq])

def decEqOptions : (a b : List ShapeNode) → Decidable (a = b)
  | [], [] => .isTrue rfl
  | [], _ :: _ => .isFalse nofun
  | _ :: _, [] => .isFalse nofun
  | n :: rest, n' :: rest' =>
    have := decEq n n'
    have := decEqOptions rest rest'
    decidable_of_iff (n = n' ∧ rest = rest') (by rw [List.cons.injEq])
end

instance : DecidableEq ShapeNode := decEq

end ShapeNode

/-! Describing a schema. -/

/-- A schema's definition, whichever version of the library built it. -/
inductive Schema where
  | optional (inner : Schema)
  | nullable (inner : Schema)
  /-- `text` is the JSON text of the default, if it has one -/
  | default (inner : Schema) (text : Option String)
  /-- `catch`, `readonly` and `nonoptional`, and a pipe, whose input is described -/
  | through (inner : Schema)
  | lazy
  /-- extra keys pass through, or have a schema of their own -/
  | object (shape : List (String × Schema)) (passthrough : Bool)
  | array (element : Schema)
  | union (options : List Schema)
  | literal (values : List Literal)
  | enum (values : List Literal)
  | intersection (left right : Schema)
  | tuple (items : List Schema)
  | record (valueType : Option Schema)
  | other (type : String)

def ShapeNode.withFlags (flags : ShapeFlags → ShapeFlags) : ShapeNode → ShapeNode
  | .mk type own keys extraKeys element options values => .mk type (flags own) keys extraKeys element options values

def nodeOf (type : String) : ShapeNode :=
  .mk type {} [] false none [] []

mutual
def describeShape : Schema → ShapeNode
  | .optional inner => (describeShape inner).withFlags fun own => { own with optional := true }
  | .nullable inner => (describeShape inner).withFlags fun own => { own with nullable := true }
  | .default inner text =>
    (describeShape inner).withFlags fun own => { own with hasDefault := true, default := text.or own.default }
  | .through inner => describeShape inner
  | .lazy => nodeOf "lazy"
  | .object shape passthrough =>
    .mk "object" {} ((describeKeys shape).mergeSort fun a b => decide (a.1 ≤ b.1)) passthrough none [] []
  | .array element => .mk "array" {} [] false (some (describeShape element)) [] []
  | .union options => .mk "union" {} [] false none (describeAll options) []
  | .literal values => .mk "literal" {} [] false none [] values
  | .enum values => .mk "enum" {} [] false none [] values
  | .intersection left right => .mk "intersection" {} [] false none [describeShape left, describeShape right] []
  | .tuple items => .mk "tuple" {} [] false none (describeAll items) []
  | .record valueType => .mk "record" {} [] false (describeElement valueType) [] []
  | .other type => nodeOf type

def describeKeys : List (String × Schema) → List (String × ShapeNode)
  | [] => []
  | (k, schema) :: rest => (k, describeShape schema) :: describeKeys rest

def describeAll : List Schema → List ShapeNode
  | [] => []
  | schema :: rest => describeShape schema :: describeAll rest

def describeElement : Option Schema → Option ShapeNode
  | none => none
  | some schema => some (describeShape schema)
end

/-! Comparing two shapes. -/

def sameFlags (a b : ShapeNode) : Bool :=
  a.flags = b.flags

/-- What every object has from its prototype. -/
def inheritedMembers : List String :=
  ["constructor", "__defineGetter__", "__defineSetter__", "hasOwnProperty", "__lookupGetter__", "__lookupSetter__",
    "isPrototypeOf", "propertyIsEnumerable", "toString", "valueOf", "__proto__", "toLocaleString"]

/-- `k in record` -/
def inRecord (k : String) (record : List (String × ShapeNode)) : Bool :=
  inheritedMembers.contains k || (record.lookup k).isSome

mutual
def isCompatible : ShapeNode → ShapeNode → Bool
  | .mk type flags keys extraKeys element options values, server =>
    if type ≠ server.type ∨ !sameFlags (.mk type flags keys extraKeys element options values) server then false
    else if type = "object" then
      if extraKeys ≠ server.extraKeys then false
      else
        keysCompatible keys server.keys &&
          server.keys.all fun key =>
            inRecord key.1 keys || (server.keys.lookup key.1).any fun s => s.flags.optional && !s.flags.hasDefault
    else decide (ShapeNode.mk type flags keys extraKeys element options values = server)

/-- Every event key is one of the server's, unchanged. An inherited member is no shape. -/
def keysCompatible : List (String × ShapeNode) → List (String × ShapeNode) → Bool
  | [], _ => true
  | (k, event) :: rest, serverKeys =>
    (match serverKeys.lookup k with
      | some server => isCompatible event server
      | none => false) && keysCompatible rest serverKeys
end

/-! A shape read as a parser. -/

/-- How one key of an object is parsed. -/
structure KeyParser where
  optional : Bool
  hasDefault : Bool
  fill : Json
  parse : Json → Option Json

/-- Known keys are parsed; the others pass through or are stripped. -/
def parseFields (parsers : List (String × KeyParser)) (extraKeys : Bool) :
    List (String × Json) → Option (List (String × Json))
  | [] => some []
  | (k, v) :: rest =>
    match parsers.lookup k with
    | none => (parseFields parsers extraKeys rest).map fun parsed => if extraKeys then (k, v) :: parsed else parsed
    | some parser => (parser.parse v).bind fun w => (parseFields parsers extraKeys rest).map ((k, w) :: ·)

/-- A missing key gets its default, or may be missing. -/
def fillFields (present : List String) : List (String × KeyParser) → Option (List (String × Json))
  | [] => some []
  | (k, parser) :: rest =>
    if k ∈ present then fillFields present rest
    -- an inherited member is read in place of the key, and no JSON value comes of it
    else if inheritedMembers.contains k then none
    else if parser.hasDefault then (fillFields (k :: present) rest).map ((k, parser.fill) :: ·)
    else if parser.optional then fillFields (k :: present) rest
    else none

def parseObject (parsers : List (String × KeyParser)) (extraKeys : Bool) (fields : List (String × Json)) : Option Json :=
  (parseFields parsers extraKeys fields).bind fun parsed =>
    (fillFields (fields.map Prod.fst) parsers).map fun filled => .obj (parsed ++ filled)

def parseItems (parse : Json → Option Json) : List Json → Option (List Json)
  | [] => some []
  | v :: rest => (parse v).bind fun w => (parseItems parse rest).map (w :: ·)

def parseValues (parse : Json → Option Json) : List (String × Json) → Option (List (String × Json))
  | [] => some []
  | (k, v) :: rest => (parse v).bind fun w => (parseValues parse rest).map ((k, w) :: ·)

def parseTuple : List (Json → Option Json) → List Json → Option (List Json)
  | [], [] => some []
  | parse :: parsers, v :: rest => (parse v).bind fun w => (parseTuple parsers rest).map (w :: ·)
  | _, _ => none

def isLiteral : Json → Literal → Bool
  | .null, .null => true
  | .bool b, .bool b' => b = b'
  | .num n, .num n' => n = n'
  | .str s, .str s' => s = s'
  | _, _ => false

def Json.isNull : Json → Bool
  | .null => true
  | _ => false

/-- A base type takes its own values as they are. -/
def hasBaseType : String → Json → Option Bool
  | "string", .str _ => some true
  | "string", _ => some false
  | "number", .num _ => some true
  | "number", _ => some false
  | "boolean", .bool _ => some true
  | "boolean", _ => some false
  | "null", v => some v.isNull
  | "any", _ => some true
  | "unknown", _ => some true
  | _, _ => none

section
-- what a node's default stands for, and how the nodes of every other type are parsed (intersections, dates, lazy ones)
variable (fill : ShapeNode → Json) (parseOther : ShapeNode → Json → Option Json)

mutual
def parse : ShapeNode → Json → Option Json
  | .mk type flags keys extraKeys element options values, v =>
    if flags.nullable && v.isNull then some v
    else if type = "object" then
      match v with
      | .obj fields => parseObject (keyParsers keys) extraKeys fields
      | _ => none
    else if type = "array" then
      match v with
      | .arr items => (parseItems (elementParser element) items).map .arr
      | _ => none
    else if type = "tuple" then
      match v with
      | .arr items => (parseTuple (optionParsers options) items).map .arr
      | _ => none
    else if type = "record" then
      match v with
      | .obj fields => (parseValues (elementParser element) fields).map .obj
      | _ => none
    else if type = "union" then (optionParsers options).findSome? fun parse => parse v
    else if type = "literal" ∨ type = "enum" then if values.any (isLiteral v) then some v else none
    else
      match hasBaseType type v with
      | some fits => if fits then some v else none
      | none => parseOther (.mk type flags keys extraKeys element options values) v

def keyParsers : List (String × ShapeNode) → List (String × KeyParser)
  | [] => []
  | (k, node) :: rest =>
    (k, { optional := node.flags.optional, hasDefault := node.flags.hasDefault, fill := fill node, parse := parse node }) ::
      keyParsers rest

def elementParser : Option ShapeNode → Json → Option Json
  | none, v => some v
  | some node, v => parse node v

def optionParsers : List ShapeNode → List (Json → Option Json)
  | [] => []
  | node :: rest => parse node :: optionParsers rest
end

end

/-! What a parser leaves as it is. -/

section
variable {parsers : List (String × KeyParser)} {extraKeys : Bool}

/-- A key that is known and parsed to itself, or unknown and passed through. -/
def KeepsField (parsers : List (String × KeyParser)) (extraKeys : Bool) (k : String) (v : Json) : Prop :=
  match parsers.lookup k with
  | none => extraKeys = true
  | some parser => parser.parse v = some v

theorem parseFields_length {fields parsed : List (String × Json)} (done : parseFields parsers extraKeys fields = some parsed) :
    parsed.length ≤ fields.length := by
  induction fields generalizing parsed with
  | nil =>
    obtain rfl := Option.some.inj done
    exact le_rfl
  | cons field rest ih =>
    obtain ⟨k, v⟩ := field
    rw [parseFields] at done
    cases known : parsers.lookup k with
    | none =>
      simp only [known] at done
      obtain ⟨others, parsedRest, rfl⟩ := Option.map_eq_some_iff.mp done
      have shorter := ih parsedRest
      split_ifs
      · exact Nat.succ_le_succ shorter
      · exact shorter.trans (Nat.le_succ _)
    | some parser =>
      simp only [known] at done
      obtain ⟨w, -, tail⟩ := Option.bind_eq_some_iff.mp done
      obtain ⟨others, parsedRest, rfl⟩ := Option.map_eq_some_iff.mp tail
      exact Nat.succ_le_succ (ih parsedRest)

/-- Nothing is stripped from fields that come out as they went in. -/
theorem parseFields_fixed {fields : List (String × Json)} :
    parseFields parsers extraKeys fields = some fields ↔ ∀ k v, (k, v) ∈ fields → KeepsField parsers extraKeys k v := by
  induction fields with
  | nil => exact iff_of_true rfl fun _ _ member => absurd member List.not_mem_nil
  | cons field rest ih =>
    obtain ⟨k, v⟩ := field
    have split : (∀ k' v', (k', v') ∈ (k, v) :: rest → KeepsField parsers extraKeys k' v') ↔
        KeepsField parsers extraKeys k v ∧ ∀ k' v', (k', v') ∈ rest → KeepsField parsers extraKeys k' v' := by
      simp only [List.mem_cons, Prod.mk.injEq]
      exact ⟨fun all => ⟨all k v (.inl ⟨rfl, rfl⟩), fun k' v' member => all k' v' (.inr member)⟩,
        fun ⟨first, others⟩ k' v' member => member.elim (fun ⟨sameKey, same⟩ => sameKey ▸ same ▸ first) (others k' v')⟩
    rw [split, ← ih, parseFields]
    unfold KeepsField
    cases known : parsers.lookup k with
    | none =>
      constructor
      · intro done
        obtain ⟨others, parsedRest, same⟩ := Option.map_eq_some_iff.mp done
        have shorter := parseFields_length parsedRest
        split_ifs at same with passes
        · obtain ⟨-, rfl⟩ := List.cons.inj same
          exact ⟨passes, parsedRest⟩
        · rw [same] at shorter
          exact absurd shorter (Nat.not_succ_le_self _)
      · rintro ⟨passes, parsedRest⟩
        dsimp only
        rw [parsedRest, Option.map_some, if_pos passes]
    | some parser =>
      constructor
      · intro done
        obtain ⟨w, parsed, tail⟩ := Option.bind_eq_some_iff.mp done
        obtain ⟨others, parsedRest, same⟩ := Option.map_eq_some_iff.mp tail
        obtain ⟨sameField, rfl⟩ := List.cons.inj same
        obtain ⟨-, rfl⟩ := Prod.mk.inj sameField
        exact ⟨parsed, parsedRest⟩
      · rintro ⟨parsed, parsedRest⟩
        dsimp only at parsed ⊢
        rw [parsed, Option.bind_some, parsedRest, Option.map_some]

theorem fillFields_absent {present : List String} {filled : List (String × Json)} (done : fillFields present parsers = some filled)
    {field : String × Json} (member : field ∈ filled) : field.1 ∉ present := by
  induction parsers generalizing present filled with
  | nil =>
    obtain rfl := Option.some.inj done
    exact absurd member List.not_mem_nil
  | cons key rest ih =>
    obtain ⟨k, parser⟩ := key
    have later {others : List (String × Json)} (filledRest : fillFields (k :: present) rest = some others)
        (inside : field ∈ others) : field.1 ∉ present :=
      fun isPresent => ih filledRest inside (List.mem_cons_of_mem k isPresent)
    rw [fillFields] at done
    split_ifs at done with isPresent inherited hasDefault optional
    · exact ih done member
    · obtain ⟨others, filledRest, rfl⟩ := Option.map_eq_some_iff.mp done
      rcases List.mem_cons.mp member with rfl | inside
      · exact isPresent
      · exact later filledRest inside
    · exact later done member

/-- The first entry of a key stands for it. -/
theorem forall_lookup_cons {k : String} {parser : KeyParser} {rest : List (String × KeyParser)} {absent : List String}
    {P : String → KeyParser → Prop} (fresh : k ∉ absent) :
    (∀ k' p, List.lookup k' ((k, parser) :: rest) = some p → k' ∉ absent → P k' p) ↔
      P k parser ∧ ∀ k' p, List.lookup k' rest = some p → k' ∉ k :: absent → P k' p := by
  constructor
  · intro all
    refine ⟨all k parser (by simp) fresh, fun k' p found isAbsent => ?_⟩
    obtain ⟨other, isAbsent⟩ := not_or.mp (mt List.mem_cons.mpr isAbsent)
    exact all k' p (by rw [List.lookup_cons, beq_false_of_ne other]; exact found) isAbsent
  · rintro ⟨first, others⟩ k' p found isAbsent
    by_cases same : k' = k
    · rw [same, List.lookup_cons, beq_self_eq_true] at found
      obtain rfl := Option.some.inj found
      exact same ▸ first
    · rw [List.lookup_cons, beq_false_of_ne same] at found
      exact others k' p found (mt List.mem_cons.mp (not_or.mpr ⟨same, isAbsent⟩))

/-- What may be missing from an object that is parsed as it is. -/
theorem fillFields_nil {present : List String} :
    fillFields present parsers = some [] ↔ ∀ k parser, parsers.lookup k = some parser → k ∉ present →
      inheritedMembers.contains k = false ∧ parser.hasDefault = false ∧ parser.optional = true := by
  induction parsers generalizing present with
  | nil => exact iff_of_true rfl fun k parser known => by cases known
  | cons key rest ih =>
    obtain ⟨k, parser⟩ := key
    rw [fillFields]
    by_cases isPresent : k ∈ present
    · rw [if_pos isPresent, ih]
      refine ⟨fun all k' p found isAbsent => ?_, fun all k' p found isAbsent => ?_⟩
      · have other : k' ≠ k := fun same => isAbsent (same ▸ isPresent)
        rw [List.lookup_cons, beq_false_of_ne other] at found
        exact all k' p found isAbsent
      · have other : k' ≠ k := fun same => isAbsent (same ▸ isPresent)
        exact all k' p (by rw [List.lookup_cons, beq_false_of_ne other]; exact found) isAbsent
    · rw [if_neg isPresent, forall_lookup_cons (P := fun k p =>
        inheritedMembers.contains k = false ∧ p.hasDefault = false ∧ p.optional = true) isPresent]
      split_ifs with inherited hasDefault optional
      · refine iff_of_false nofun fun allowed => ?_
        rw [allowed.1.1] at inherited
        cases inherited
      · refine iff_of_false (fun done => ?_) fun allowed => by simp [hasDefault] at allowed
        obtain ⟨others, -, same⟩ := Option.map_eq_some_iff.mp done
        cases same
      · rw [ih]
        exact ⟨fun all => ⟨⟨Bool.not_eq_true _ ▸ inherited, Bool.not_eq_true _ ▸ hasDefault, optional⟩, all⟩, And.right⟩
      · exact iff_of_false nofun fun allowed => optional allowed.1.2.2

theorem fillFields_allowed {present : List String} {filled : List (String × Json)} (done : fillFields present parsers = some filled) :
    ∀ k parser, parsers.lookup k = some parser → k ∉ present →
      inheritedMembers.contains k = false ∧ (parser.hasDefault = true ∨ parser.optional = true) := by
  induction parsers generalizing present filled with
  | nil => exact fun k parser known => by cases known
  | cons key rest ih =>
    obtain ⟨k, parser⟩ := key
    rw [fillFields] at done
    by_cases isPresent : k ∈ present
    · rw [if_pos isPresent] at done
      intro k' p found isAbsent
      have other : k' ≠ k := fun same => isAbsent (same ▸ isPresent)
      rw [List.lookup_cons, beq_false_of_ne other] at found
      exact ih done k' p found isAbsent
    · rw [if_neg isPresent] at done
      rw [forall_lookup_cons (P := fun k p =>
        inheritedMembers.contains k = false ∧ (p.hasDefault = true ∨ p.optional = true)) isPresent]
      split_ifs at done with inherited hasDefault optional
      · obtain ⟨others, filledRest, -⟩ := Option.map_eq_some_iff.mp done
        exact ⟨⟨Bool.not_eq_true _ ▸ inherited, .inl hasDefault⟩, ih filledRest⟩
      · exact ⟨⟨Bool.not_eq_true _ ▸ inherited, .inr optional⟩, ih done⟩

theorem parseFields_parsed {fields parsed : List (String × Json)} (done : parseFields parsers extraKeys fields = some parsed) {k : String}
    {v : Json} (member : (k, v) ∈ fields) {parser : KeyParser} (known : parsers.lookup k = some parser) :
    ∃ w, parser.parse v = some w := by
  induction fields generalizing parsed with
  | nil => exact absurd member List.not_mem_nil
  | cons field rest ih =>
    rcases List.mem_cons.mp member with rfl | inside
    · rw [parseFields] at done
      simp only [known] at done
      obtain ⟨w, parsedValue, -⟩ := Option.bind_eq_some_iff.mp done
      exact ⟨w, parsedValue⟩
    · obtain ⟨k', v'⟩ := field
      rw [parseFields] at done
      split at done
      · obtain ⟨others, parsedRest, -⟩ := Option.map_eq_some_iff.mp done
        exact ih parsedRest inside
      · obtain ⟨w, -, tail⟩ := Option.bind_eq_some_iff.mp done
        obtain ⟨others, parsedRest, -⟩ := Option.map_eq_some_iff.mp tail
        exact ih parsedRest inside

/-- An object comes out as it went in when no field is stripped or changed and none is filled in. -/
theorem parseObject_fixed {fields : List (String × Json)} :
    parseObject parsers extraKeys fields = some (.obj fields) ↔
      (∀ k v, (k, v) ∈ fields → KeepsField parsers extraKeys k v) ∧
      ∀ k parser, parsers.lookup k = some parser → k ∉ fields.map Prod.fst →
        inheritedMembers.contains k = false ∧ parser.hasDefault = false ∧ parser.optional = true := by
  rw [← parseFields_fixed, ← fillFields_nil]
  unfold parseObject
  constructor
  · intro done
    obtain ⟨parsed, parsedFields, tail⟩ := Option.bind_eq_some_iff.mp done
    obtain ⟨filled, filledFields, same⟩ := Option.map_eq_some_iff.mp tail
    have whole : parsed ++ filled = fields := Json.obj.inj same
    have none : filled = [] := by
      refine List.eq_nil_iff_forall_not_mem.mpr fun field member => ?_
      refine fillFields_absent filledFields member (List.mem_map_of_mem ?_)
      rw [← whole]
      exact List.mem_append_right parsed member
    rw [none, List.append_nil] at whole
    rw [whole] at parsedFields
    rw [none] at filledFields
    exact ⟨parsedFields, filledFields⟩
  · rintro ⟨parsedFields, filledFields⟩
    rw [parsedFields, Option.bind_some, filledFields, Option.map_some, List.append_nil]

end

/-! Compatible shapes. -/

/-- The server's shape of an object that takes every key of the event's. -/
structure Extends (event server : ShapeNode) : Prop where
  type : server.type = "object"
  flags : event.flags = server.flags
  extraKeys : event.extraKeys = server.extraKeys
  kept : ∀ k e, (k, e) ∈ event.keys → ∃ s, server.keys.lookup k = some s ∧ isCompatible e s = true
  added : ∀ k s, server.keys.lookup k = some s → inRecord k event.keys = true ∨ (s.flags.optional = true ∧ s.flags.hasDefault = false)

theorem keysCompatible_iff {keys serverKeys : List (String × ShapeNode)} :
    keysCompatible keys serverKeys = true ↔ ∀ k e, (k, e) ∈ keys → ∃ s, serverKeys.lookup k = some s ∧ isCompatible e s = true := by
  induction keys with
  | nil => exact iff_of_true rfl fun _ _ member => absurd member List.not_mem_nil
  | cons key rest ih =>
    obtain ⟨k, e⟩ := key
    have first : (match serverKeys.lookup k with
        | some server => isCompatible e server
        | none => false) = true ↔ ∃ s, serverKeys.lookup k = some s ∧ isCompatible e s = true := by
      cases serverKeys.lookup k <;> simp
    rw [keysCompatible, Bool.and_eq_true, ih, first]
    simp only [List.mem_cons, Prod.mk.injEq]
    exact ⟨fun ⟨one, all⟩ k' e' member => member.elim (fun ⟨sameKey, same⟩ => sameKey ▸ same ▸ one) (all k' e'),
      fun all => ⟨all k e (.inl ⟨rfl, rfl⟩), fun k' e' member => all k' e' (.inr member)⟩⟩

theorem mem_of_lookup {α : Type*} {k : String} {a : α} {entries : List (String × α)} (found : entries.lookup k = some a) :
    (k, a) ∈ entries := by
  obtain ⟨before, after, rfl, -⟩ := List.lookup_eq_some_iff.mp found
  exact List.mem_append_right before List.mem_cons_self

theorem all_added {keys serverKeys : List (String × ShapeNode)} :
    (serverKeys.all fun key => inRecord key.1 keys ||
      (serverKeys.lookup key.1).any fun s => s.flags.optional && !s.flags.hasDefault) = true ↔
      ∀ k s, serverKeys.lookup k = some s → inRecord k keys = true ∨ (s.flags.optional = true ∧ s.flags.hasDefault = false) := by
  simp only [List.all_eq_true, Bool.or_eq_true]
  constructor
  · intro all k s found
    simpa [found] using all (k, s) (mem_of_lookup found)
  · intro all key member
    have known : (serverKeys.lookup key.1).isSome = true := List.lookup_isSome_iff.mpr ⟨key, member, beq_self_eq_true _⟩
    obtain ⟨s, found⟩ := Option.isSome_iff_exists.mp known
    simpa [found] using all key.1 s found

theorem isCompatible_object {event server : ShapeNode} (isObject : event.type = "object") :
    isCompatible event server = true ↔ Extends event server := by
  obtain ⟨type, flags, keys, extraKeys, element, options, values⟩ := event
  obtain rfl : type = "object" := isObject
  rw [isCompatible, if_pos rfl]
  constructor
  · intro compatible
    split_ifs at compatible with differs extra
    obtain ⟨sameType, same⟩ := not_or.mp differs
    obtain ⟨kept, added⟩ := Bool.and_eq_true_iff.mp compatible
    refine ⟨(not_not.mp sameType).symm, ?_, not_not.mp extra, keysCompatible_iff.mp kept, all_added.mp added⟩
    simpa [sameFlags] using same
  · intro extends'
    have same : ¬ ("object" ≠ server.type ∨
        (!sameFlags (.mk "object" flags keys extraKeys element options values) server) = true) := by
      refine not_or.mpr ⟨not_not.mpr extends'.type.symm, ?_⟩
      simpa [sameFlags] using extends'.flags
    have extra : extraKeys = server.extraKeys := extends'.extraKeys
    rw [if_neg same, if_neg (not_not.mpr extra)]
    exact Bool.and_eq_true_iff.mpr ⟨keysCompatible_iff.mpr extends'.kept, all_added.mpr extends'.added⟩

theorem isCompatible_other {event server : ShapeNode} (other : event.type ≠ "object") :
    isCompatible event server = true ↔ event = server := by
  obtain ⟨type, flags, keys, extraKeys, element, options, values⟩ := event
  have other : type ≠ "object" := other
  rw [isCompatible, if_neg other]
  constructor
  · intro compatible
    split_ifs at compatible
    exact of_decide_eq_true compatible
  · rintro rfl
    have same : ¬ (type ≠ (ShapeNode.mk type flags keys extraKeys element options values).type ∨
        (!sameFlags (.mk type flags keys extraKeys element options values)
          (.mk type flags keys extraKeys element options values)) = true) :=
      not_or.mpr ⟨not_not.mpr rfl, by simp [sameFlags]⟩
    rw [if_neg same]
    exact decide_eq_true rfl

section
variable {fill : ShapeNode → Json} {parseOther : ShapeNode → Json → Option Json}

/-- How a node parses the key it stands for. -/
def keyParser (fill : ShapeNode → Json) (parseOther : ShapeNode → Json → Option Json) (node : ShapeNode) : KeyParser where
  optional := node.flags.optional
  hasDefault := node.flags.hasDefault
  fill := fill node
  parse := parse fill parseOther node

theorem lookup_keyParsers (k : String) (keys : List (String × ShapeNode)) :
    (keyParsers fill parseOther keys).lookup k = (keys.lookup k).map (keyParser fill parseOther) := by
  induction keys with
  | nil => rfl
  | cons key rest ih =>
    obtain ⟨k', node⟩ := key
    rw [keyParsers, List.lookup_cons, List.lookup_cons, ih]
    split <;> rfl

/-- What an object node does with an object. -/
theorem parse_object {node : ShapeNode} (isObject : node.type = "object") (fields : List (String × Json)) :
    parse fill parseOther node (.obj fields) = parseObject (keyParsers fill parseOther node.keys) node.extraKeys fields := by
  obtain ⟨type, flags, keys, extraKeys, element, options, values⟩ := node
  obtain rfl : type = "object" := isObject
  rw [parse, if_neg (by simp [Json.isNull]), if_pos rfl]
  rfl

theorem sizeOf_key {node child : ShapeNode} {k : String} (member : (k, child) ∈ node.keys) :
    sizeOf child < sizeOf node := by
  obtain ⟨type, flags, keys, extraKeys, element, options, values⟩ := node
  have inside := List.sizeOf_lt_of_mem member
  have entry : sizeOf (k, child) = 1 + sizeOf k + sizeOf child := rfl
  have node := ShapeNode.mk.sizeOf_spec type flags keys extraKeys element options values
  have keysOf : (ShapeNode.mk type flags keys extraKeys element options values).keys = keys := rfl
  rw [keysOf] at inside
  omega

theorem sizeOf_element {node child : ShapeNode} (same : node.element = some child) : sizeOf child < sizeOf node := by
  obtain ⟨type, flags, keys, extraKeys, element, options, values⟩ := node
  obtain rfl : element = some child := same
  have inside : sizeOf (some child) = 1 + sizeOf child := rfl
  have node := ShapeNode.mk.sizeOf_spec type flags keys extraKeys (some child) options values
  omega

theorem sizeOf_option {node child : ShapeNode} (member : child ∈ node.options) : sizeOf child < sizeOf node := by
  obtain ⟨type, flags, keys, extraKeys, element, options, values⟩ := node
  have inside : sizeOf child < sizeOf options := List.sizeOf_lt_of_mem member
  have node := ShapeNode.mk.sizeOf_spec type flags keys extraKeys element options values
  omega

theorem isCompatible_flags {event server : ShapeNode} (compatible : isCompatible event server = true) :
    event.flags = server.flags := by
  by_cases isObject : event.type = "object"
  · exact ((isCompatible_object isObject).mp compatible).flags
  · rw [(isCompatible_other isObject).mp compatible]

theorem keepsField_keyParsers {keys : List (String × ShapeNode)} {extraKeys : Bool} {k : String} {w : Json} :
    KeepsField (keyParsers fill parseOther keys) extraKeys k w ↔
      (keys.lookup k = none → extraKeys = true) ∧ ∀ node, keys.lookup k = some node → parse fill parseOther node w = some w := by
  unfold KeepsField
  rw [lookup_keyParsers]
  cases keys.lookup k with
  | none => simp
  | some node => simp [keyParser]

/-- What an object node takes as it is. -/
structure KeepsObject (fill : ShapeNode → Json) (parseOther : ShapeNode → Json → Option Json) (node : ShapeNode)
    (fields : List (String × Json)) : Prop where
  unknown : ∀ k w, (k, w) ∈ fields → node.keys.lookup k = none → node.extraKeys = true
  known : ∀ k w s, (k, w) ∈ fields → node.keys.lookup k = some s → parse fill parseOther s w = some w
  missing : ∀ k s, node.keys.lookup k = some s → k ∉ fields.map Prod.fst →
    inheritedMembers.contains k = false ∧ s.flags.hasDefault = false ∧ s.flags.optional = true

theorem parse_object_fixed {node : ShapeNode} (isObject : node.type = "object") {fields : List (String × Json)} :
    parse fill parseOther node (.obj fields) = some (.obj fields) ↔ KeepsObject fill parseOther node fields := by
  rw [parse_object isObject, parseObject_fixed]
  constructor
  · rintro ⟨keeps, missing⟩
    refine ⟨fun k w member => (keepsField_keyParsers.mp (keeps k w member)).1,
      fun k w s member => (keepsField_keyParsers.mp (keeps k w member)).2 s, fun k s found => ?_⟩
    exact missing k (keyParser fill parseOther s) (by rw [lookup_keyParsers, found, Option.map_some])
  · intro keeps
    refine ⟨fun k w member => keepsField_keyParsers.mpr ⟨keeps.unknown k w member, fun s => keeps.known k w s member⟩, ?_⟩
    intro k parser found
    rw [lookup_keyParsers] at found
    obtain ⟨s, foundS, rfl⟩ := Option.map_eq_some_iff.mp found
    exact keeps.missing k s foundS

/-- What an object node does not refuse. -/
theorem parse_object_parsed {node : ShapeNode} (isObject : node.type = "object") {fields : List (String × Json)} {r : Json}
    (parsed : parse fill parseOther node (.obj fields) = some r) :
    (∀ k w s, (k, w) ∈ fields → node.keys.lookup k = some s → ∃ w', parse fill parseOther s w = some w') ∧
    (∀ k s, node.keys.lookup k = some s → k ∉ fields.map Prod.fst →
      inheritedMembers.contains k = false ∧ (s.flags.hasDefault = true ∨ s.flags.optional = true)) := by
  rw [parse_object isObject] at parsed
  obtain ⟨parsedFields, doneFields, tail⟩ := Option.bind_eq_some_iff.mp parsed
  obtain ⟨filled, doneFilled, -⟩ := Option.map_eq_some_iff.mp tail
  have known : ∀ k s, node.keys.lookup k = some s →
      (keyParsers fill parseOther node.keys).lookup k = some (keyParser fill parseOther s) := by
    intro k s found
    rw [lookup_keyParsers, found, Option.map_some]
  exact ⟨fun k w s member found => parseFields_parsed doneFields member (known k s found),
    fun k s found => fillFields_allowed doneFilled k _ (known k s found)⟩

/-! A value that a shape leaves as it is. -/

theorem optionParsers_eq (options : List ShapeNode) : optionParsers fill parseOther options = options.map (parse fill parseOther) := by
  induction options with
  | nil => rfl
  | cons node rest ih => rw [optionParsers, ih, List.map_cons]

theorem elementParser_fixed {element : Option ShapeNode} {w : Json} :
    elementParser fill parseOther element w = some w ↔ ∀ node, element = some node → parse fill parseOther node w = some w := by
  cases element with
  | none => exact iff_of_true rfl nofun
  | some node => exact ⟨fun done _ same => Option.some.inj same ▸ done, fun all => all node rfl⟩

theorem parseItems_each {taken : Json → Option Json} {items : List Json} (done : parseItems taken items = some items) :
    ∀ w ∈ items, taken w = some w := by
  induction items with
  | nil => exact fun w member => absurd member List.not_mem_nil
  | cons v rest ih =>
    obtain ⟨w, first, tail⟩ := Option.bind_eq_some_iff.mp done
    obtain ⟨others, later, same⟩ := Option.map_eq_some_iff.mp tail
    obtain ⟨rfl, rfl⟩ := List.cons.inj same
    exact List.forall_mem_cons.mpr ⟨first, ih later⟩

theorem parseItems_same {taken : Json → Option Json} {items out : List Json} (done : parseItems taken items = some out)
    (each : ∀ w ∈ items, ∀ w', taken w = some w' → w' = w) : out = items := by
  induction items generalizing out with
  | nil => exact (Option.some.inj done).symm
  | cons v rest ih =>
    obtain ⟨w, first, tail⟩ := Option.bind_eq_some_iff.mp done
    obtain ⟨others, later, rfl⟩ := Option.map_eq_some_iff.mp tail
    obtain ⟨eachFirst, eachRest⟩ := List.forall_mem_cons.mp each
    rw [eachFirst w first, ih later eachRest]

theorem parseValues_each {taken : Json → Option Json} {fields : List (String × Json)} (done : parseValues taken fields = some fields) :
    ∀ k w, (k, w) ∈ fields → taken w = some w := by
  induction fields with
  | nil => exact fun k w member => absurd member List.not_mem_nil
  | cons field rest ih =>
    obtain ⟨k, v⟩ := field
    obtain ⟨w, first, tail⟩ := Option.bind_eq_some_iff.mp done
    obtain ⟨others, later, same⟩ := Option.map_eq_some_iff.mp tail
    obtain ⟨sameField, rfl⟩ := List.cons.inj same
    obtain ⟨-, rfl⟩ := Prod.mk.inj sameField
    intro k' w' member
    rcases List.mem_cons.mp member with isFirst | inRest
    · obtain ⟨-, rfl⟩ := Prod.mk.inj isFirst
      exact first
    · exact ih later k' w' inRest

theorem parseValues_same {taken : Json → Option Json} {fields out : List (String × Json)}
    (done : parseValues taken fields = some out) (each : ∀ k w, (k, w) ∈ fields → ∀ w', taken w = some w' → w' = w) :
    out = fields := by
  induction fields generalizing out with
  | nil => exact (Option.some.inj done).symm
  | cons field rest ih =>
    obtain ⟨k, v⟩ := field
    obtain ⟨w, first, tail⟩ := Option.bind_eq_some_iff.mp done
    obtain ⟨others, later, rfl⟩ := Option.map_eq_some_iff.mp tail
    rw [each k v List.mem_cons_self w first, ih later fun k' w' member => each k' w' (List.mem_cons_of_mem _ member)]

theorem parseTuple_each {options : List ShapeNode} {items : List Json}
    (done : parseTuple (options.map (parse fill parseOther)) items = some items) :
    ∀ s w, (s, w) ∈ options.zip items → parse fill parseOther s w = some w := by
  induction options generalizing items with
  | nil => exact fun s w member => absurd member List.not_mem_nil
  | cons option options ih =>
    cases items with
    | nil => cases done
    | cons v rest =>
      obtain ⟨w, first, tail⟩ := Option.bind_eq_some_iff.mp done
      obtain ⟨others, later, same⟩ := Option.map_eq_some_iff.mp tail
      obtain ⟨rfl, rfl⟩ := List.cons.inj same
      intro s w' member
      rcases List.mem_cons.mp member with isFirst | inRest
      · obtain ⟨rfl, rfl⟩ := Prod.mk.inj isFirst
        exact first
      · exact ih later s w' inRest

theorem parseTuple_same {options : List ShapeNode} {items out : List Json}
    (done : parseTuple (options.map (parse fill parseOther)) items = some out)
    (each : ∀ s w, (s, w) ∈ options.zip items → ∀ w', parse fill parseOther s w = some w' → w' = w) : out = items := by
  induction options generalizing items out with
  | nil =>
    cases items with
    | nil => exact (Option.some.inj done).symm
    | cons v rest => cases done
  | cons option options ih =>
    cases items with
    | nil => cases done
    | cons v rest =>
      obtain ⟨w, first, tail⟩ := Option.bind_eq_some_iff.mp done
      obtain ⟨others, later, rfl⟩ := Option.map_eq_some_iff.mp tail
      rw [each option v List.mem_cons_self w first, ih later fun s w' member => each s w' (List.mem_cons_of_mem _ member)]

/-- An option takes a value where none before it does. -/
theorem findSome_parse (options : List ShapeNode) (v : Json) :
    ((options.map (parse fill parseOther)).findSome? fun taken => taken v) =
      (options.find? fun s => (parse fill parseOther s v).isSome).bind fun s => parse fill parseOther s v := by
  induction options with
  | nil => rfl
  | cons option rest ih =>
    rw [List.map_cons, List.findSome?_cons, List.find?_cons, ih]
    cases taken : parse fill parseOther option v with
    | none => simp
    | some w => simp [taken]

/-- Types that are parsed piece by piece, or compared with their values. -/
def structuredTypes : List String :=
  ["object", "array", "tuple", "record", "union", "literal", "enum"]

/-- A node whose parser is no part of its shape. -/
def isOtherType (type : String) (v : Json) : Bool :=
  !structuredTypes.contains type && (hasBaseType type v).isNone

section
variable {node : ShapeNode} {v r : Json}

theorem parse_null (null : (node.flags.nullable && v.isNull) = true) : parse fill parseOther node v = some v := by
  obtain ⟨type, flags, keys, extraKeys, element, options, values⟩ := node
  exact if_pos null

theorem parse_array (isArray : node.type = "array") (items : List Json) : parse fill parseOther node (.arr items) =
    (parseItems (elementParser fill parseOther node.element) items).map .arr := by
  obtain ⟨type, flags, keys, extraKeys, element, options, values⟩ := node
  obtain rfl : type = "array" := isArray
  simp [parse, Json.isNull, ShapeNode.element]

theorem parse_tuple (isTuple : node.type = "tuple") (items : List Json) : parse fill parseOther node (.arr items) =
    (parseTuple (node.options.map (parse fill parseOther)) items).map .arr := by
  obtain ⟨type, flags, keys, extraKeys, element, options, values⟩ := node
  obtain rfl : type = "tuple" := isTuple
  simp [parse, Json.isNull, ShapeNode.options, optionParsers_eq]

theorem parse_record (isRecord : node.type = "record") (fields : List (String × Json)) :
    parse fill parseOther node (.obj fields) = (parseValues (elementParser fill parseOther node.element) fields).map .obj := by
  obtain ⟨type, flags, keys, extraKeys, element, options, values⟩ := node
  obtain rfl : type = "record" := isRecord
  simp [parse, Json.isNull, ShapeNode.element]

theorem parse_union (isUnion : node.type = "union") (notNull : (node.flags.nullable && v.isNull) = false) :
    parse fill parseOther node v =
      (node.options.find? fun s => (parse fill parseOther s v).isSome).bind fun s => parse fill parseOther s v := by
  obtain ⟨type, flags, keys, extraKeys, element, options, values⟩ := node
  obtain rfl : type = "union" := isUnion
  rw [← findSome_parse]
  have notNull : ¬(flags.nullable && v.isNull) = true := Bool.eq_false_iff.mp notNull
  unfold parse
  rw [if_neg notNull, optionParsers_eq]
  rfl

theorem hasBaseType_structured {type : String} (structured : structuredTypes.contains type = true) (v : Json) :
    hasBaseType type v = none := by
  have types : type = "object" ∨ type = "array" ∨ type = "tuple" ∨ type = "record" ∨ type = "union" ∨ type = "literal" ∨
      type = "enum" := by simpa [structuredTypes] using structured
  rcases types with rfl | rfl | rfl | rfl | rfl | rfl | rfl <;> cases v <;> rfl

theorem parse_unstructured (unstructured : structuredTypes.contains node.type = false)
    (notNull : (node.flags.nullable && v.isNull) = false) : parse fill parseOther node v =
      match hasBaseType node.type v with
      | some fits => if fits then some v else none
      | none => parseOther node v := by
  obtain ⟨type, flags, keys, extraKeys, element, options, values⟩ := node
  have types : type ≠ "object" ∧ type ≠ "array" ∧ type ≠ "tuple" ∧ type ≠ "record" ∧ type ≠ "union" ∧ type ≠ "literal" ∧
      type ≠ "enum" := by simpa [structuredTypes, ShapeNode.type] using unstructured
  obtain ⟨object, array, tuple, record, union, literal, enum⟩ := types
  have notNull : ¬(flags.nullable && v.isNull) = true := Bool.eq_false_iff.mp notNull
  unfold parse
  rw [if_neg notNull, if_neg object, if_neg array, if_neg tuple, if_neg record, if_neg union,
    if_neg (not_or.mpr ⟨literal, enum⟩)]
  rfl

theorem parse_values (isValue : node.type = "literal" ∨ node.type = "enum") (notNull : (node.flags.nullable && v.isNull) = false)
    (parsed : parse fill parseOther node v = some r) : r = v := by
  obtain ⟨type, flags, keys, extraKeys, element, options, values⟩ := node
  have notNull : ¬(flags.nullable && v.isNull) = true := Bool.eq_false_iff.mp notNull
  unfold parse at parsed
  rw [if_neg notNull] at parsed
  have isValue : type = "literal" ∨ type = "enum" := isValue
  rcases isValue with rfl | rfl
  · exact (Option.some.inj (Option.ite_none_right_eq_some.mp parsed).2).symm
  · exact (Option.some.inj (Option.ite_none_right_eq_some.mp parsed).2).symm

theorem parse_base (isBase : (hasBaseType node.type v).isSome = true) (notNull : (node.flags.nullable && v.isNull) = false)
    (parsed : parse fill parseOther node v = some r) : r = v := by
  have unstructured : structuredTypes.contains node.type = false := by
    by_contra structured
    rw [hasBaseType_structured (eq_true_of_ne_false structured)] at isBase
    cases isBase
  obtain ⟨fits, base⟩ := Option.isSome_iff_exists.mp isBase
  rw [parse_unstructured unstructured notNull, base] at parsed
  exact (Option.some.inj (Option.ite_none_right_eq_some.mp parsed).2).symm

theorem parse_other (isOther : isOtherType node.type v = true) (notNull : (node.flags.nullable && v.isNull) = false) :
    parse fill parseOther node v = parseOther node v := by
  obtain ⟨unstructured, noBase⟩ := Bool.and_eq_true_iff.mp isOther
  rw [parse_unstructured (by simpa using unstructured) notNull, Option.isNone_iff_eq_none.mp noBase]

/-- Only an object is taken as one. -/
theorem obj_of_parsed (holds : node.type = "object" ∨ node.type = "record") (notNull : (node.flags.nullable && v.isNull) = false)
    (parsed : parse fill parseOther node v = some r) : ∃ fields, v = .obj fields := by
  obtain ⟨type, flags, keys, extraKeys, element, options, values⟩ := node
  have notNull : ¬(flags.nullable && v.isNull) = true := Bool.eq_false_iff.mp notNull
  unfold parse at parsed
  rw [if_neg notNull] at parsed
  have holds : type = "object" ∨ type = "record" := holds
  rcases holds with rfl | rfl
  all_goals
    cases v with
    | obj fields => exact ⟨fields, rfl⟩
    | _ => cases parsed

theorem arr_of_parsed (holds : node.type = "array" ∨ node.type = "tuple") (notNull : (node.flags.nullable && v.isNull) = false)
    (parsed : parse fill parseOther node v = some r) : ∃ items, v = .arr items := by
  obtain ⟨type, flags, keys, extraKeys, element, options, values⟩ := node
  have notNull : ¬(flags.nullable && v.isNull) = true := Bool.eq_false_iff.mp notNull
  unfold parse at parsed
  rw [if_neg notNull] at parsed
  have holds : type = "array" ∨ type = "tuple" := holds
  rcases holds with rfl | rfl
  all_goals
    cases v with
    | arr items => exact ⟨items, rfl⟩
    | _ => cases parsed

end

/-- A value holds no key that a shape strips and lacks none that it has a default for. -/
inductive Clean (fill : ShapeNode → Json) (parseOther : ShapeNode → Json → Option Json) : ShapeNode → Json → Prop
  | null {node : ShapeNode} (nullable : node.flags.nullable = true) : Clean fill parseOther node .null
  | object {node : ShapeNode} {fields : List (String × Json)} (isObject : node.type = "object")
    (unknown : ∀ k w, (k, w) ∈ fields → node.keys.lookup k = none → node.extraKeys = true)
    (known : ∀ k w s, (k, w) ∈ fields → node.keys.lookup k = some s → Clean fill parseOther s w)
    (missing : ∀ k s, node.keys.lookup k = some s → k ∉ fields.map Prod.fst → s.flags.hasDefault = false) :
    Clean fill parseOther node (.obj fields)
  | array {node : ShapeNode} {items : List Json} (isArray : node.type = "array")
    (each : ∀ s, node.element = some s → ∀ w ∈ items, Clean fill parseOther s w) : Clean fill parseOther node (.arr items)
  | tuple {node : ShapeNode} {items : List Json} (isTuple : node.type = "tuple")
    (each : ∀ s w, (s, w) ∈ node.options.zip items → Clean fill parseOther s w) : Clean fill parseOther node (.arr items)
  | record {node : ShapeNode} {fields : List (String × Json)} (isRecord : node.type = "record")
    (each : ∀ s, node.element = some s → ∀ k w, (k, w) ∈ fields → Clean fill parseOther s w) :
    Clean fill parseOther node (.obj fields)
  /-- of an option, the first one that takes the value -/
  | union {node s : ShapeNode} {v : Json} (isUnion : node.type = "union")
    (first : node.options.find? (fun s => (parse fill parseOther s v).isSome) = some s) (clean : Clean fill parseOther s v) :
    Clean fill parseOther node v
  /-- a literal, a member of an enumeration, a value of a base type -/
  | plain {node : ShapeNode} {v : Json}
    (isPlain : node.type = "literal" ∨ node.type = "enum" ∨ (hasBaseType node.type v).isSome = true) : Clean fill parseOther node v
  | other {node : ShapeNode} {v : Json} (isOther : isOtherType node.type v = true) (kept : parseOther node v = some v) :
    Clean fill parseOther node v

theorem Clean.fixed {node : ShapeNode} {v r : Json} (clean : Clean fill parseOther node v)
    (parsed : parse fill parseOther node v = some r) : r = v := by
  -- where null is allowed it is taken as it is
  have byNull {node : ShapeNode} {v r : Json} (parsed : parse fill parseOther node v = some r)
      (other : (node.flags.nullable && v.isNull) = false → r = v) : r = v := by
    cases null : node.flags.nullable && v.isNull with
    | true => exact (Option.some.inj ((parse_null null).symm.trans parsed)).symm
    | false => exact other null
  induction clean generalizing r with
  | null nullable => exact byNull parsed fun notNull => absurd notNull (by simp [nullable, Json.isNull])
  | @object node fields isObject unknown known missing ih =>
    obtain ⟨knownParsed, allowed⟩ := parse_object_parsed isObject parsed
    have keeps : KeepsObject fill parseOther node fields :=
      { unknown := unknown
        known := fun k w s member found => by
          obtain ⟨w', parsedKey⟩ := knownParsed k w s member found
          rwa [ih k w s member found parsedKey] at parsedKey
        missing := fun k s found absent => by
          obtain ⟨isOwn, either⟩ := allowed k s found absent
          have noDefault := missing k s found absent
          rw [noDefault] at either
          exact ⟨isOwn, noDefault, either.resolve_left Bool.false_ne_true⟩ }
    exact Option.some.inj (parsed.symm.trans ((parse_object_fixed isObject).mpr keeps))
  | @array node items isArray each ih =>
    rw [parse_array isArray] at parsed
    obtain ⟨out, done, rfl⟩ := Option.map_eq_some_iff.mp parsed
    refine congrArg _ (parseItems_same done fun w member w' taken => ?_)
    cases isElement : node.element with
    | none =>
      rw [isElement] at taken
      exact (Option.some.inj taken).symm
    | some s =>
      rw [isElement] at taken
      exact ih s isElement w member taken
  | @tuple node items isTuple each ih =>
    rw [parse_tuple isTuple] at parsed
    obtain ⟨out, done, rfl⟩ := Option.map_eq_some_iff.mp parsed
    exact congrArg _ (parseTuple_same done fun s w member w' taken => ih s w member taken)
  | @record node fields isRecord each ih =>
    rw [parse_record isRecord] at parsed
    obtain ⟨out, done, rfl⟩ := Option.map_eq_some_iff.mp parsed
    refine congrArg _ (parseValues_same done fun k w member w' taken => ?_)
    cases isElement : node.element with
    | none =>
      rw [isElement] at taken
      exact (Option.some.inj taken).symm
    | some s =>
      rw [isElement] at taken
      exact ih s isElement k w member taken
  | @union node s v isUnion first clean ih =>
    refine byNull parsed fun notNull => ih ?_
    rwa [parse_union isUnion notNull, first] at parsed
  | @plain node v isPlain =>
    refine byNull parsed fun notNull => ?_
    rcases isPlain with isLiteral | isEnum | isBase
    · exact parse_values (.inl isLiteral) notNull parsed
    · exact parse_values (.inr isEnum) notNull parsed
    · exact parse_base isBase notNull parsed
  | @other node v isOther kept =>
    refine byNull parsed fun notNull => ?_
    rw [parse_other isOther notNull, kept] at parsed
    exact (Option.some.inj parsed).symm

/-- Every value that a shape takes as it is is clean. -/
theorem clean_of_fixed {node : ShapeNode} {v : Json} (fixed : parse fill parseOther node v = some v) :
    Clean fill parseOther node v := by
  cases null : node.flags.nullable && v.isNull with
  | true =>
    obtain ⟨nullable, isNull⟩ := Bool.and_eq_true_iff.mp null
    cases v with
    | null => exact .null nullable
    | _ => cases isNull
  | false =>
    cases structured : structuredTypes.contains node.type with
    | false =>
      cases base : hasBaseType node.type v with
      | some fits => exact .plain (.inr (.inr (by rw [base]; rfl)))
      | none =>
        have isOther : isOtherType node.type v = true := by
          rw [isOtherType, structured, base]
          rfl
        exact .other isOther ((parse_other isOther null).symm.trans fixed)
    | true =>
      have types : node.type = "object" ∨ node.type = "array" ∨ node.type = "tuple" ∨ node.type = "record" ∨
          node.type = "union" ∨ node.type = "literal" ∨ node.type = "enum" := by simpa [structuredTypes] using structured
      rcases types with isObject | isArray | isTuple | isRecord | isUnion | isLiteral | isEnum
      · obtain ⟨fields, rfl⟩ := obj_of_parsed (.inl isObject) null fixed
        have keeps := (parse_object_fixed isObject).mp fixed
        exact .object isObject keeps.unknown (fun k w s member found => clean_of_fixed (keeps.known k w s member found))
          fun k s found absent => (keeps.missing k s found absent).2.1
      · obtain ⟨items, rfl⟩ := arr_of_parsed (.inl isArray) null fixed
        rw [parse_array isArray] at fixed
        obtain ⟨out, done, same⟩ := Option.map_eq_some_iff.mp fixed
        obtain rfl := Json.arr.inj same
        refine .array isArray fun s isElement w member => clean_of_fixed ?_
        exact elementParser_fixed.mp (parseItems_each done w member) s isElement
      · obtain ⟨items, rfl⟩ := arr_of_parsed (.inr isTuple) null fixed
        rw [parse_tuple isTuple] at fixed
        obtain ⟨out, done, same⟩ := Option.map_eq_some_iff.mp fixed
        obtain rfl := Json.arr.inj same
        exact .tuple isTuple fun s w member => clean_of_fixed (parseTuple_each done s w member)
      · obtain ⟨fields, rfl⟩ := obj_of_parsed (.inr isRecord) null fixed
        rw [parse_record isRecord] at fixed
        obtain ⟨out, done, same⟩ := Option.map_eq_some_iff.mp fixed
        obtain rfl := Json.obj.inj same
        refine .record isRecord fun s isElement k w member => clean_of_fixed ?_
        exact elementParser_fixed.mp (parseValues_each done k w member) s isElement
      · rw [parse_union isUnion null] at fixed
        obtain ⟨s, first, taken⟩ := Option.bind_eq_some_iff.mp fixed
        exact .union isUnion first (clean_of_fixed taken)
      · exact .plain (.inl isLiteral)
      · exact .plain (.inr (.inl isEnum))
termination_by sizeOf node
decreasing_by
  · exact sizeOf_key (mem_of_lookup found)
  · exact sizeOf_element isElement
  · exact sizeOf_option (List.of_mem_zip member).1
  · exact sizeOf_element isElement
  · exact sizeOf_option (List.mem_of_find?_eq_some first)

/-! What the server's shape leaves of a payload. -/

/-- What a payload holds where only the server has a key is clean. -/
inductive Kept (fill : ShapeNode → Json) (parseOther : ShapeNode → Json → Option Json) : ShapeNode → ShapeNode → Json → Prop
  | plain {event server : ShapeNode} {v : Json} (notObject : event.type ≠ "object" ∨ ∀ fields, v ≠ .obj fields) :
    Kept fill parseOther event server v
  | object {event server : ShapeNode} {fields : List (String × Json)}
    (new : ∀ k s w, event.keys.lookup k = none → server.keys.lookup k = some s → (k, w) ∈ fields → Clean fill parseOther s w)
    (common : ∀ k e s w, event.keys.lookup k = some e → server.keys.lookup k = some s → (k, w) ∈ fields →
      Kept fill parseOther e s w) :
    Kept fill parseOther event server (.obj fields)

theorem Extends.sameKey {event server : ShapeNode} (extends' : Extends event server) {k : String} {e s : ShapeNode}
    (foundE : event.keys.lookup k = some e) (foundS : server.keys.lookup k = some s) : isCompatible e s = true := by
  obtain ⟨s', foundS', compatible⟩ := extends'.kept k e (mem_of_lookup foundE)
  obtain rfl := Option.some.inj (foundS.symm.trans foundS')
  exact compatible

/-- The server takes an object as it is when it does so with the keys of both shapes and with those of its own. -/
theorem Extends.keepsObject {event server : ShapeNode} (extends' : Extends event server) {fields : List (String × Json)} {r : Json}
    (keeps : KeepsObject fill parseOther event fields) (parsed : parse fill parseOther server (.obj fields) = some r)
    (new : ∀ k s w, event.keys.lookup k = none → server.keys.lookup k = some s → (k, w) ∈ fields →
      parse fill parseOther s w = some w)
    (common : ∀ k e s w, event.keys.lookup k = some e → server.keys.lookup k = some s → (k, w) ∈ fields →
      parse fill parseOther s w = some w) : KeepsObject fill parseOther server fields := by
  refine ⟨fun k w member unknown => ?_, fun k w s member foundS => ?_, fun k s foundS absent => ?_⟩
  · -- the event does not know the key either
    rw [← extends'.extraKeys]
    refine keeps.unknown k w member ?_
    cases foundE : event.keys.lookup k with
    | none => rfl
    | some e =>
      obtain ⟨s, foundS, -⟩ := extends'.kept k e (mem_of_lookup foundE)
      rw [unknown] at foundS
      cases foundS
  · cases foundE : event.keys.lookup k with
    | none => exact new k s w foundE foundS member
    | some e => exact common k e s w foundE foundS member
  · cases foundE : event.keys.lookup k with
    | none =>
      -- the key is new, so a default would have been noticed
      obtain ⟨isOwn, -⟩ := (parse_object_parsed extends'.type parsed).2 k s foundS absent
      have notIn : inRecord k event.keys = false := by
        unfold inRecord
        rw [isOwn, foundE]
        rfl
      rcases extends'.added k s foundS with inEvent | ⟨optional, noDefault⟩
      · rw [notIn] at inEvent
        cases inEvent
      · exact ⟨isOwn, noDefault, optional⟩
    | some e =>
      rw [← isCompatible_flags (extends'.sameKey foundE foundS)]
      exact keeps.missing k e foundE absent

/-- A payload that the event's shape takes as it is, parsed by the server's shape: the result is the payload where what it holds
at the keys of the server alone is clean. -/
theorem parse_kept {event server : ShapeNode} (compatible : isCompatible event server = true) {v r : Json}
    (fixed : parse fill parseOther event v = some v) (parsed : parse fill parseOther server v = some r) :
    r = v ↔ Kept fill parseOther event server v := by
  by_cases isObject : event.type = "object"
  · have extends' := (isCompatible_object isObject).mp compatible
    by_cases plain : ∀ fields, v ≠ .obj fields
    · refine iff_of_true ?_ (.plain (.inr plain))
      cases null : server.flags.nullable && v.isNull with
      | true => exact (Option.some.inj ((parse_null null).symm.trans parsed)).symm
      | false => exact (obj_of_parsed (.inl extends'.type) null parsed).elim fun fields same => absurd same (plain fields)
    · push Not at plain
      obtain ⟨fields, rfl⟩ := plain
      have keeps := (parse_object_fixed isObject).mp fixed
      -- a key of both shapes
      have common : ∀ k e s w, event.keys.lookup k = some e → server.keys.lookup k = some s → (k, w) ∈ fields →
          ∀ w', parse fill parseOther s w = some w' → (w' = w ↔ Kept fill parseOther e s w) := by
        intro k e s w foundE foundS member w' parsedKey
        exact parse_kept (extends'.sameKey foundE foundS) (keeps.known k w e member foundE) parsedKey
      constructor
      · rintro rfl
        have serverKeeps := (parse_object_fixed extends'.type).mp parsed
        refine .object (fun k s w _ foundS member => clean_of_fixed (serverKeeps.known k w s member foundS))
          fun k e s w foundE foundS member => ?_
        exact (common k e s w foundE foundS member w (serverKeeps.known k w s member foundS)).mp rfl
      · intro kept
        cases kept with
        | plain notObject => exact notObject.elim (absurd isObject) fun plain => absurd rfl (plain fields)
        | object new keptCommon =>
          have keyParsed := (parse_object_parsed extends'.type parsed).1
          have serverKeeps : KeepsObject fill parseOther server fields := by
            refine extends'.keepsObject keeps parsed (fun k s w foundE foundS member => ?_) fun k e s w foundE foundS member => ?_
            · obtain ⟨w', parsedKey⟩ := keyParsed k w s member foundS
              rwa [(new k s w foundE foundS member).fixed parsedKey] at parsedKey
            · obtain ⟨w', parsedKey⟩ := keyParsed k w s member foundS
              rwa [(common k e s w foundE foundS member w' parsedKey).mpr (keptCommon k e s w foundE foundS member)] at parsedKey
          exact Option.some.inj (parsed.symm.trans ((parse_object_fixed extends'.type).mpr serverKeeps))
  · rw [← (isCompatible_other isObject).mp compatible] at parsed
    exact iff_of_true (Option.some.inj (parsed.symm.trans fixed)) (.plain (.inl isObject))
termination_by sizeOf event
decreasing_by exact sizeOf_key (mem_of_lookup foundE)

/-- No object of the event passes extra keys. -/
inductive Strict : ShapeNode → ShapeNode → Prop
  | node {event server : ShapeNode} (strips : event.extraKeys = false)
    (common : ∀ k e s, event.keys.lookup k = some e → server.keys.lookup k = some s → Strict e s) :
    Strict event server

/-- Under strict shapes nothing is lost or invented, whatever the payload. -/
theorem Strict.kept {event server : ShapeNode} (strict : Strict event server) (compatible : isCompatible event server = true)
    {v : Json} (fixed : parse fill parseOther event v = some v) : Kept fill parseOther event server v := by
  induction strict generalizing v with
  | @node event server strips common ih =>
    by_cases plain : event.type ≠ "object" ∨ ∀ fields, v ≠ .obj fields
    · exact .plain plain
    · push Not at plain
      obtain ⟨isObject, fields, rfl⟩ := plain
      have extends' := (isCompatible_object isObject).mp compatible
      have keeps := (parse_object_fixed isObject).mp fixed
      refine .object (fun k s w foundE foundS member => ?_) fun k e s w foundE foundS member => ?_
      · have passes := keeps.unknown k w member foundE
        rw [strips] at passes
        cases passes
      · exact ih k e s foundE foundS (extends'.sameKey foundE foundS) (keeps.known k w e member foundE)

end

/-! Successive versions. -/

/-- Records whose keys are distinct. -/
inductive Distinct : ShapeNode → Prop
  | node {node : ShapeNode} (keys : (node.keys.map Prod.fst).Nodup) (inner : ∀ k child, (k, child) ∈ node.keys → Distinct child) :
    Distinct node

theorem lookup_of_mem {entries : List (String × ShapeNode)} (distinct : (entries.map Prod.fst).Nodup) {k : String} {child : ShapeNode}
    (member : (k, child) ∈ entries) : entries.lookup k = some child := by
  cases found : entries.lookup k with
  | none =>
    have absent := List.lookup_eq_none_iff.mp found (k, child) member
    simp at absent
  | some other =>
    have same := List.inj_on_of_nodup_map distinct (mem_of_lookup found) member rfl
    exact congrArg some (Prod.mk.inj same).2

theorem isCompatible_refl {node : ShapeNode} (distinct : Distinct node) : isCompatible node node = true := by
  induction distinct with
  | @node node keys inner ih =>
    by_cases isObject : node.type = "object"
    · refine (isCompatible_object isObject).mpr ⟨isObject, rfl, rfl, fun k e member => ?_, fun k s found => .inl ?_⟩
      · exact ⟨e, lookup_of_mem keys member, ih k e member⟩
      · unfold inRecord
        rw [found, Option.isSome_some, Bool.or_true]
    · exact (isCompatible_other isObject).mpr rfl

theorem inRecord_iff {k : String} {record : List (String × ShapeNode)} :
    inRecord k record = true ↔ inheritedMembers.contains k = true ∨ ∃ child, record.lookup k = some child := by
  unfold inRecord
  rw [Bool.or_eq_true, Option.isSome_iff_exists]

theorem isCompatible_trans {a b c : ShapeNode} (first : isCompatible a b = true) (second : isCompatible b c = true) :
    isCompatible a c = true := by
  by_cases isObject : a.type = "object"
  · have ab := (isCompatible_object isObject).mp first
    have bc := (isCompatible_object ab.type).mp second
    refine (isCompatible_object isObject).mpr ⟨bc.type, ab.flags.trans bc.flags, ab.extraKeys.trans bc.extraKeys, ?_, ?_⟩
    · intro k e member
      obtain ⟨s, foundB, compatible⟩ := ab.kept k e member
      obtain ⟨t, foundC, compatible'⟩ := bc.kept k s (mem_of_lookup foundB)
      exact ⟨t, foundC, isCompatible_trans compatible compatible'⟩
    · intro k t foundC
      rcases bc.added k t foundC with inB | allowed
      · rcases inRecord_iff.mp inB with inherited | ⟨s, foundB⟩
        · exact .inl (inRecord_iff.mpr (.inl inherited))
        · rcases ab.added k s foundB with inA | allowed
          · exact .inl inA
          · rw [isCompatible_flags (bc.sameKey foundB foundC)] at allowed
            exact .inr allowed
      · exact .inr allowed
  · rw [(isCompatible_other isObject).mp first]
    exact second
termination_by sizeOf a
decreasing_by exact sizeOf_key member

/-- Schemas of objects whose keys are distinct. -/
inductive Schema.Distinct : Schema → Prop
  | optional {inner : Schema} (distinct : inner.Distinct) : (Schema.optional inner).Distinct
  | nullable {inner : Schema} (distinct : inner.Distinct) : (Schema.nullable inner).Distinct
  | default {inner : Schema} {text : Option String} (distinct : inner.Distinct) : (Schema.default inner text).Distinct
  | through {inner : Schema} (distinct : inner.Distinct) : (Schema.through inner).Distinct
  | object {shape : List (String × Schema)} {passthrough : Bool} (keys : (shape.map Prod.fst).Nodup)
    (inner : ∀ k child, (k, child) ∈ shape → child.Distinct) : (Schema.object shape passthrough).Distinct
  | plain {schema : Schema} (noKeys : (describeShape schema).keys = []) : schema.Distinct

theorem withFlags_keys (flags : ShapeFlags → ShapeFlags) (node : ShapeNode) : (node.withFlags flags).keys = node.keys := by
  cases node
  rfl

theorem Distinct.withFlags {node : ShapeNode} (distinct : Distinct node) (flags : ShapeFlags → ShapeFlags) :
    Distinct (node.withFlags flags) := by
  cases distinct with
  | node keys inner => exact .node ((withFlags_keys flags node).symm ▸ keys) ((withFlags_keys flags node).symm ▸ inner)

theorem describeKeys_eq (shape : List (String × Schema)) :
    describeKeys shape = shape.map fun key => (key.1, describeShape key.2) := by
  induction shape with
  | nil => rfl
  | cons key rest ih => rw [describeKeys, ih, List.map_cons]

theorem describeShape_distinct {schema : Schema} (distinct : schema.Distinct) : Distinct (describeShape schema) := by
  induction distinct with
  | optional _ ih => exact ih.withFlags _
  | nullable _ ih => exact ih.withFlags _
  | default _ ih => exact ih.withFlags _
  | through _ ih => exact ih
  | @object shape passthrough keys inner ih =>
    have sorted := List.mergeSort_perm (describeKeys shape) fun a b => decide (a.1 ≤ b.1)
    refine .node ?_ fun k child member => ?_
    · refine ((sorted.map Prod.fst).nodup_iff).mpr ?_
      rw [describeKeys_eq, List.map_map]
      exact keys
    · have inside : (k, child) ∈ describeKeys shape := sorted.mem_iff.mp member
      rw [describeKeys_eq] at inside
      obtain ⟨⟨k', schema⟩, isKey, same⟩ := List.mem_map.mp inside
      obtain ⟨rfl, rfl⟩ := Prod.mk.inj same
      exact ih _ schema isKey
  | @plain schema noKeys =>
    exact .node (by rw [noKeys]; exact List.nodup_nil) fun k child member => absurd (noKeys ▸ member) List.not_mem_nil

/-- What is recorded under a schema can be replayed under it. -/
theorem describeShape_compatible {schema : Schema} (distinct : schema.Distinct) :
    isCompatible (describeShape schema) (describeShape schema) = true :=
  isCompatible_refl (describeShape_distinct distinct)

/-- Compatibility keeps a payload as it is exactly where what it holds at the keys of the server alone is clean, which it is where
no extra key passes, and it holds between successive versions. -/
theorem isCompatible_sound (fill : ShapeNode → Json) (parseOther : ShapeNode → Json → Option Json) :
    (∀ event server v r, isCompatible event server = true → parse fill parseOther event v = some v →
      parse fill parseOther server v = some r → (r = v ↔ Kept fill parseOther event server v)) ∧
    (∀ event server v, isCompatible event server = true → Strict event server → parse fill parseOther event v = some v →
      Kept fill parseOther event server v) ∧
    (∀ node, Distinct node → isCompatible node node = true) ∧
    (∀ a b c, isCompatible a b = true → isCompatible b c = true → isCompatible a c = true) :=
  ⟨fun _ _ _ _ compatible fixed parsed => parse_kept compatible fixed parsed,
    fun _ _ _ compatible strict fixed => strict.kept compatible fixed,
    fun _ distinct => isCompatible_refl distinct, fun _ _ _ first second => isCompatible_trans first second⟩

/-! A session passes extra keys, and today's schema knows one of them. -/

def sessionEvent : ShapeNode :=
  .mk "object" {} [("userId", nodeOf "number")] true none [] []

def sessionServer : ShapeNode :=
  .mk "object" {} [("userId", nodeOf "number"),
    ("extra", .mk "object" { optional := true } [("amount", nodeOf "number")] false none [] [])] true none [] []

/-- The payload holds the key, and nothing in it that is stripped. -/
theorem isCompatible_sound_addedKey : Kept (fun _ => .null) (fun _ _ => none) sessionEvent sessionServer
    (.obj [("userId", .num 1), ("extra", .obj [("amount", .num 5)])]) :=
  ((isCompatible_sound (fun _ => .null) fun _ _ => none).1 sessionEvent sessionServer _ _ (by decide +kernel) rfl rfl).mp rfl

/-- What the payload holds there besides the amount is stripped. -/
theorem isCompatible_passedKey :
    ∃ event server v r,
      isCompatible event server = true ∧ parse (fun _ => .null) (fun _ _ => none) event v = some v ∧
      parse (fun _ => .null) (fun _ _ => none) server v = some r ∧ r ≠ v := by
  refine ⟨sessionEvent, sessionServer,
    .obj [("userId", .num 1), ("extra", .obj [("amount", .num 5), ("currency", .str "LBP")])],
    .obj [("userId", .num 1), ("extra", .obj [("amount", .num 5)])], by decide +kernel, rfl, rfl, ?_⟩
  simp

end Liratek.Offline.SchemaShape

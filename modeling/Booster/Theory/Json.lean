import Booster.Theory.Run
import Mathlib.Data.List.Forall2
import Mathlib.Data.List.Infix

/-!
# Decoding JSON

A document is a tree; a *coding path* is a list of keys and indices that leads into it
(`Json.valueAt`). A `Decoder` reads a value at a coding path, and returns what it made of the value or
an error with the path at which it failed: the decoders of a text, a number and an array, a keyed
container for an object, and from it the value of a key, which must be there (`decode`) or may be
missing or `null` (`decodeIfPresent`).

How a number is read as an `Int` or a `Double` is a parameter (`Numbers`), and the error of a number
that cannot be read names the type that was asked.

Two things are to be proved of a decoder, and each decoder here hands them on. `Exact`: it succeeds on
the values that represent something, with what they represent. `Truthful`: what its
error says of the document is so (`DecodingError.Describes`). The first element of an array that is refused is
the array's error (`decodeArray_eq_error_iff`).
-/

namespace Booster.Theory

universe u

/-- A document whose numbers are of type `ν`. -/
inductive Json (ν : Type u) where
  | null
  | bool (b : Bool)
  | number (n : ν)
  | string (s : String)
  | array (elements : List (Json ν))
  | object (members : List (String × Json ν))

/-- What a decoder can expect. -/
inductive JsonKind where
  | number
  | string
  | array
  | object
  deriving DecidableEq

/-- What a number can be asked to be. -/
inductive NumberType where
  | int
  | double
  deriving DecidableEq

/-- How numbers are read. -/
structure Numbers (ν : Type u) where
  /-- As an `Int`, if it is one that fits. -/
  int : ν → Option Int64
  /-- As a `Double`. -/
  double : ν → Option Float

/-- The number cannot be read as what it is asked to be. -/
def Numbers.Refuses {ν : Type u} (numbers : Numbers ν) : NumberType → ν → Prop
  | .int, n => numbers.int n = none
  | .double, n => numbers.double n = none

/-- A step of a coding path. -/
inductive CodingKey where
  /-- To the member with a key. -/
  | key (name : String)
  /-- To the element with an index. -/
  | index (i : ℕ)
  deriving DecidableEq

/-- Why a decoder fails, and where. -/
inductive DecodingError where
  /-- The value is of another kind than expected. -/
  | typeMismatch (expected : JsonKind) (codingPath : List CodingKey)
  /-- The value is `null`. -/
  | valueNotFound (expected : JsonKind) (codingPath : List CodingKey)
  /-- The object has no such key. -/
  | keyNotFound (key : String) (codingPath : List CodingKey)
  /-- The number is not one of the type asked. -/
  | dataCorrupted (asked : NumberType) (codingPath : List CodingKey)
  deriving DecidableEq

/-- Where the decoder failed. -/
def DecodingError.codingPath : DecodingError → List CodingKey
  | .typeMismatch _ codingPath | .valueNotFound _ codingPath | .keyNotFound _ codingPath
  | .dataCorrupted _ codingPath => codingPath

section

variable {ν α β : Type}

namespace Json

/-- The kind of a value, if a decoder can expect it. -/
def kind : Json ν → Option JsonKind
  | .number _ => some .number
  | .string _ => some .string
  | .array _ => some .array
  | .object _ => some .object
  | .null | .bool _ => none

/-- The value one step into a document. -/
def child : CodingKey → Json ν → Option (Json ν)
  | .key name, .object members => members.lookup name
  | .index i, .array elements => elements[i]?
  | _, _ => none

/-- The value a coding path leads to. -/
def valueAt : List CodingKey → Json ν → Option (Json ν)
  | [], v => some v
  | k :: ks, v => (v.child k).bind (valueAt ks)

theorem valueAt_append (p q : List CodingKey) (v : Json ν) : v.valueAt (p ++ q) = (v.valueAt p).bind (valueAt q) := by
  induction p generalizing v with
  | nil => rfl
  | cons k p ih =>
    rw [List.cons_append, valueAt, valueAt]
    cases v.child k with
    | none => rfl
    | some w => exact ih w

/-- One step further. -/
theorem valueAt_concat {p : List CodingKey} {k : CodingKey} {v w x : Json ν} (hw : v.valueAt p = some w)
    (hx : w.child k = some x) : v.valueAt (p ++ [k]) = some x := by
  rw [valueAt_append, hw, Option.bind_some, valueAt, hx]
  rfl

end Json

/-- What the error says of the document. -/
def DecodingError.Describes (numbers : Numbers ν) (root : Json ν) : DecodingError → Prop
  | .typeMismatch expected p => ∃ v, root.valueAt p = some v ∧ v ≠ .null ∧ v.kind ≠ some expected
  | .valueNotFound _ p => root.valueAt p = some .null
  | .keyNotFound key p => ∃ members, root.valueAt p = some (.object members) ∧ members.lookup key = none
  | .dataCorrupted asked p => ∃ n, root.valueAt p = some (.number n) ∧ numbers.Refuses asked n

/-! ### Decoders -/

/-- A decoder of `α`, given the coding path of the value. -/
abbrev Decoder (ν α : Type) := List CodingKey → Json ν → Except DecodingError α

/-- Why a value that is not of the kind expected is refused. -/
def unexpected (expected : JsonKind) (codingPath : List CodingKey) : Json ν → DecodingError
  | .null => .valueNotFound expected codingPath
  | _ => .typeMismatch expected codingPath

/-- A text. -/
def decodeString : Decoder ν String
  | _, .string s => .ok s
  | path, v => .error (unexpected .string path v)

/-- A number that `read` can read, asked to be of a type. -/
def decodeNumber (asked : NumberType) (read : ν → Option α) : Decoder ν α
  | path, .number n =>
    match read n with
    | some a => .ok a
    | none => .error (.dataCorrupted asked path)
  | path, v => .error (unexpected .number path v)

/-- An `Int`. -/
def Numbers.decodeInt (numbers : Numbers ν) : Decoder ν Int64 := decodeNumber .int numbers.int

/-- A `Double`. -/
def Numbers.decodeDouble (numbers : Numbers ν) : Decoder ν Float := decodeNumber .double numbers.double

/-- The elements of an array, from index `i` on. -/
def decodeElements (d : Decoder ν α) (path : List CodingKey) : ℕ → List (Json ν) → Except DecodingError (List α)
  | _, [] => .ok []
  | i, v :: vs => do
    let a ← d (path ++ [.index i]) v
    let as ← decodeElements d path (i + 1) vs
    return a :: as

/-- An array. -/
def decodeArray (d : Decoder ν α) : Decoder ν (List α)
  | path, .array elements => decodeElements d path 0 elements
  | path, v => .error (unexpected .array path v)

/-- An object being decoded. -/
structure KeyedContainer (ν : Type) where
  codingPath : List CodingKey
  members : List (String × Json ν)

/-- The container of an object. -/
def keyedContainer : Decoder ν (KeyedContainer ν)
  | path, .object members => .ok ⟨path, members⟩
  | path, v => .error (unexpected .object path v)

namespace KeyedContainer

/-- The value of a key. -/
def decode (c : KeyedContainer ν) (key : String) (d : Decoder ν α) : Except DecodingError α :=
  match c.members.lookup key with
  | some v => d (c.codingPath ++ [.key key]) v
  | none => .error (.keyNotFound key c.codingPath)

/-- The value of a key, unless it is missing or `null`. -/
def decodeIfPresent (c : KeyedContainer ν) (key : String) (d : Decoder ν α) : Except DecodingError (Option α) :=
  match c.members.lookup key with
  | none | some .null => .ok none
  | some v => (d (c.codingPath ++ [.key key]) v).map some

end KeyedContainer

/-- An object, whose members `f` reads. -/
def decodeObject (f : KeyedContainer ν → Except DecodingError α) : Decoder ν α := fun path v =>
  keyedContainer path v >>= f

/-! ### What a document represents -/

/-- The decoder succeeds on the values that represent something, with what they represent. -/
def Exact (d : Decoder ν α) (R : Json ν → α → Prop) : Prop := ∀ path v a, d path v = .ok a ↔ R v a

/-- The value is a text. -/
def IsString (v : Json ν) (s : String) : Prop := v = .string s

/-- The value is a number that `read` reads as `a`. -/
def IsNumber (read : ν → Option α) (v : Json ν) (a : α) : Prop := ∃ n, v = .number n ∧ read n = some a

/-- The value is an array of what represents `as`. -/
def IsArray (R : Json ν → α → Prop) (v : Json ν) (as : List α) : Prop :=
  ∃ elements, v = .array elements ∧ List.Forall₂ R elements as

/-- The value is an object whose members represent `a`. -/
def IsObject (R : List (String × Json ν) → α → Prop) (v : Json ν) (a : α) : Prop :=
  ∃ members, v = .object members ∧ R members a

/-- The object has a member `key` that represents `a`. -/
def Has (R : Json ν → α → Prop) (key : String) (members : List (String × Json ν)) (a : α) : Prop :=
  ∃ v, members.lookup key = some v ∧ R v a

/-- The object has a member `key` that represents what is there, or none but `null`, and nothing is there. -/
def MayHave (R : Json ν → α → Prop) (key : String) (members : List (String × Json ν)) : Option α → Prop
  | some a => ∃ v, members.lookup key = some v ∧ v ≠ .null ∧ R v a
  | none => members.lookup key = none ∨ members.lookup key = some .null

theorem exact_decodeString : Exact (decodeString : Decoder ν String) IsString := by
  intro path v a
  cases v <;> simp [decodeString, IsString]

theorem exact_decodeNumber (asked : NumberType) (read : ν → Option α) :
    Exact (decodeNumber asked read) (IsNumber read) := by
  intro path v a
  cases v with
  | number n =>
    rw [decodeNumber]
    cases hn : read n <;> simp [IsNumber, hn]
  | null => simp [decodeNumber, IsNumber]
  | bool b => simp [decodeNumber, IsNumber]
  | string s => simp [decodeNumber, IsNumber]
  | array elements => simp [decodeNumber, IsNumber]
  | object members => simp [decodeNumber, IsNumber]

theorem exact_decodeInt (numbers : Numbers ν) : Exact numbers.decodeInt (IsNumber numbers.int) :=
  exact_decodeNumber .int numbers.int

theorem exact_decodeDouble (numbers : Numbers ν) : Exact numbers.decodeDouble (IsNumber numbers.double) :=
  exact_decodeNumber .double numbers.double

theorem decodeElements_eq_ok_iff {d : Decoder ν α} {R : Json ν → α → Prop} (hd : Exact d R) {path : List CodingKey}
    {i : ℕ} {vs : List (Json ν)} {as : List α} :
    decodeElements d path i vs = .ok as ↔ List.Forall₂ R vs as := by
  induction vs generalizing i as with
  | nil => simp [decodeElements, eq_comm]
  | cons v vs ih =>
    rw [decodeElements, bind_eq_ok_iff]
    constructor
    · rintro ⟨a, ha, h⟩
      obtain ⟨as', has, h⟩ := bind_eq_ok_iff.mp h
      cases h
      exact .cons ((hd _ v a).mp ha) (ih.mp has)
    · rintro (_ | ⟨ha, has⟩)
      exact ⟨_, (hd _ v _).mpr ha, bind_eq_ok_iff.mpr ⟨_, ih.mpr has, rfl⟩⟩

theorem exact_decodeArray {d : Decoder ν α} {R : Json ν → α → Prop} (hd : Exact d R) :
    Exact (decodeArray d) (IsArray R) := by
  intro path v as
  cases v with
  | array elements => simp [decodeArray, IsArray, decodeElements_eq_ok_iff hd]
  | null => simp [decodeArray, IsArray]
  | bool b => simp [decodeArray, IsArray]
  | number n => simp [decodeArray, IsArray]
  | string s => simp [decodeArray, IsArray]
  | object members => simp [decodeArray, IsArray]

theorem keyedContainer_eq_ok_iff {path : List CodingKey} {v : Json ν} {c : KeyedContainer ν} :
    keyedContainer path v = .ok c ↔ ∃ members, v = .object members ∧ c = ⟨path, members⟩ := by
  cases v <;> simp [keyedContainer, eq_comm]

theorem exact_decodeObject {f : KeyedContainer ν → Except DecodingError α} {R : List (String × Json ν) → α → Prop}
    (hf : ∀ c a, f c = .ok a ↔ R c.members a) : Exact (decodeObject f) (IsObject R) := by
  intro path v a
  rw [decodeObject, bind_eq_ok_iff]
  constructor
  · rintro ⟨c, hc, h⟩
    obtain ⟨members, rfl, rfl⟩ := keyedContainer_eq_ok_iff.mp hc
    exact ⟨members, rfl, (hf _ a).mp h⟩
  · rintro ⟨members, rfl, h⟩
    exact ⟨⟨path, members⟩, rfl, (hf _ a).mpr h⟩

namespace KeyedContainer

theorem decode_of_lookup {c : KeyedContainer ν} {key : String} {v : Json ν} (hv : c.members.lookup key = some v)
    (d : Decoder ν α) : c.decode key d = d (c.codingPath ++ [.key key]) v := by
  rw [decode, hv]

theorem decodeIfPresent_of_lookup {c : KeyedContainer ν} {key : String} {v : Json ν}
    (hv : c.members.lookup key = some v) (hn : v ≠ .null) (d : Decoder ν α) :
    c.decodeIfPresent key d = (d (c.codingPath ++ [.key key]) v).map some := by
  rw [decodeIfPresent, hv]
  cases v with
  | null => exact absurd rfl hn
  | _ => rfl

theorem decodeIfPresent_of_missing {c : KeyedContainer ν} {key : String}
    (hv : c.members.lookup key = none ∨ c.members.lookup key = some .null) (d : Decoder ν α) :
    c.decodeIfPresent key d = .ok none := by
  rcases hv with hv | hv <;> rw [decodeIfPresent, hv]

/-- A member is missing, or has a value that is not `null`. -/
theorem missing_or_lookup (c : KeyedContainer ν) (key : String) :
    (c.members.lookup key = none ∨ c.members.lookup key = some .null) ∨
      ∃ v, c.members.lookup key = some v ∧ v ≠ .null := by
  cases hv : c.members.lookup key with
  | none => exact .inl (.inl rfl)
  | some v =>
    by_cases hn : v = .null
    · exact .inl (.inr (by rw [hn]))
    · exact .inr ⟨v, rfl, hn⟩

theorem decode_eq_ok_iff {d : Decoder ν α} {R : Json ν → α → Prop} (hd : Exact d R) {c : KeyedContainer ν}
    {key : String} {a : α} : c.decode key d = .ok a ↔ Has R key c.members a := by
  cases hv : c.members.lookup key with
  | none => simp [decode, Has, hv]
  | some v =>
    rw [decode_of_lookup hv, hd]
    simp [Has, hv]

theorem decodeIfPresent_eq_ok_iff {d : Decoder ν α} {R : Json ν → α → Prop} (hd : Exact d R) {c : KeyedContainer ν}
    {key : String} {o : Option α} : c.decodeIfPresent key d = .ok o ↔ MayHave R key c.members o := by
  rcases c.missing_or_lookup key with hm | ⟨v, hv, hn⟩
  · rw [decodeIfPresent_of_missing hm, Except.ok.injEq]
    cases o with
    | none => exact iff_of_true rfl hm
    | some a =>
      refine iff_of_false nofun ?_
      rintro ⟨v, hv, hn, -⟩
      rcases hm with hm | hm
      · rw [hm] at hv
        cases hv
      · rw [hm, Option.some.injEq] at hv
        exact hn hv.symm
  · have hda := hd (c.codingPath ++ [.key key]) v
    rw [decodeIfPresent_of_lookup hv hn]
    cases o with
    | none =>
      refine iff_of_false ?_ (by simp [MayHave, hv, hn])
      cases d (c.codingPath ++ [.key key]) v <;> simp [Except.map]
    | some a =>
      refine Iff.trans ?_ ((hda a).trans (by simp [MayHave, hv, hn]))
      cases d (c.codingPath ++ [.key key]) v <;> simp [Except.map]

end KeyedContainer

/-! ### What an error reports -/

section

variable (numbers : Numbers ν)

/-- If `x` is an error, it describes the document at a path that goes on from `path`. -/
def Reports (root : Json ν) (path : List CodingKey) (x : Except DecodingError α) : Prop :=
  ∀ e, x = .error e → e.Describes numbers root ∧ path <+: e.codingPath

/-- Every error of the decoder describes the document it is given a value of. -/
def Truthful (d : Decoder ν α) : Prop :=
  ∀ (root : Json ν) path v, root.valueAt path = some v → Reports numbers root path (d path v)

variable {numbers}

theorem reports_ok (root : Json ν) (path : List CodingKey) (a : α) : Reports numbers root path (.ok a) := nofun

theorem Reports.weaken {root : Json ν} {p q : List CodingKey} {x : Except DecodingError α}
    (h : Reports numbers root q x) (hp : p <+: q) : Reports numbers root p x :=
  fun e he => ⟨(h e he).1, hp.trans (h e he).2⟩

theorem Reports.bind {root : Json ν} {path : List CodingKey} {x : Except DecodingError α}
    {f : α → Except DecodingError β} (hx : Reports numbers root path x)
    (hf : ∀ a, x = .ok a → Reports numbers root path (f a)) : Reports numbers root path (x >>= f) := by
  cases x with
  | error e =>
    rintro e' ⟨⟩
    exact hx e rfl
  | ok a => exact hf a rfl

theorem Reports.map {root : Json ν} {path : List CodingKey} {x : Except DecodingError α} (f : α → β)
    (hx : Reports numbers root path x) : Reports numbers root path (x.map f) := by
  cases x with
  | error e =>
    rintro e' ⟨⟩
    exact hx e rfl
  | ok a => exact reports_ok root path (f a)

theorem reports_unexpected {root v : Json ν} {path : List CodingKey} {expected : JsonKind}
    (hv : root.valueAt path = some v) (hk : v.kind ≠ some expected) :
    Reports numbers root path (.error (unexpected expected path v) : Except DecodingError α) := by
  rintro e ⟨⟩
  by_cases hn : v = .null
  · subst hn
    exact ⟨hv, List.prefix_refl _⟩
  · have he : unexpected expected path v = .typeMismatch expected path := by
      cases v with
      | null => exact absurd rfl hn
      | _ => rfl
    rw [he]
    exact ⟨⟨v, hv, hn, hk⟩, List.prefix_refl _⟩

theorem truthful_decodeString : Truthful numbers (decodeString : Decoder ν String) := by
  intro root path v hv
  cases v with
  | string s => exact reports_ok root path s
  | _ => exact reports_unexpected hv nofun

theorem truthful_decodeNumber {asked : NumberType} {read : ν → Option α}
    (hr : ∀ n, read n = none → numbers.Refuses asked n) : Truthful numbers (decodeNumber asked read) := by
  intro root path v hv
  cases v with
  | number n =>
    rw [decodeNumber]
    cases hn : read n with
    | some a => exact reports_ok root path a
    | none =>
      rintro e ⟨⟩
      exact ⟨⟨n, hv, hr n hn⟩, List.prefix_refl _⟩
  | _ => exact reports_unexpected hv nofun

theorem truthful_decodeInt (numbers : Numbers ν) : Truthful numbers numbers.decodeInt :=
  truthful_decodeNumber fun _ hn => hn

theorem truthful_decodeDouble (numbers : Numbers ν) : Truthful numbers numbers.decodeDouble :=
  truthful_decodeNumber fun _ hn => hn

theorem truthful_decodeArray {d : Decoder ν α} (hd : Truthful numbers d) : Truthful numbers (decodeArray d) := by
  intro root path v hv
  cases v with
  | array elements =>
    -- each element still to be decoded is where its index says
    have hel : ∀ vs i, (∀ k v, vs[k]? = some v → root.valueAt (path ++ [.index (i + k)]) = some v) →
        Reports numbers root path (decodeElements d path i vs) := by
      intro vs
      induction vs with
      | nil => exact fun i _ => reports_ok root path []
      | cons v vs ih =>
        intro i hi
        refine ((hd root _ v (hi 0 v rfl)).weaken (List.prefix_append _ _)).bind fun a _ => ?_
        refine (ih (i + 1) fun k w hk => ?_).bind fun as _ => reports_ok root path _
        rw [Nat.add_right_comm]
        exact hi (k + 1) w hk
    refine hel elements 0 fun k w hk => Json.valueAt_concat hv ?_
    rw [Nat.zero_add]
    exact hk
  | _ => exact reports_unexpected hv nofun

theorem truthful_keyedContainer : Truthful numbers (keyedContainer : Decoder ν (KeyedContainer ν)) := by
  intro root path v hv
  cases v with
  | object members => exact reports_ok root path _
  | _ => exact reports_unexpected hv nofun

namespace KeyedContainer

/-- The object of the container is in the document. -/
def In (c : KeyedContainer ν) (root : Json ν) : Prop := root.valueAt c.codingPath = some (.object c.members)

theorem In.member {c : KeyedContainer ν} {root v : Json ν} {key : String} (h : c.In root)
    (hv : c.members.lookup key = some v) : root.valueAt (c.codingPath ++ [.key key]) = some v :=
  Json.valueAt_concat (w := .object c.members) h hv

theorem In.decode {c : KeyedContainer ν} {root : Json ν} (h : c.In root) (key : String) {d : Decoder ν α}
    (hd : Truthful numbers d) : Reports numbers root c.codingPath (c.decode key d) := by
  cases hv : c.members.lookup key with
  | none =>
    rw [KeyedContainer.decode, hv]
    rintro e ⟨⟩
    exact ⟨⟨c.members, h, hv⟩, List.prefix_refl _⟩
  | some v =>
    rw [decode_of_lookup hv]
    exact (hd root _ v (h.member hv)).weaken (List.prefix_append _ _)

theorem In.decodeIfPresent {c : KeyedContainer ν} {root : Json ν} (h : c.In root) (key : String) {d : Decoder ν α}
    (hd : Truthful numbers d) : Reports numbers root c.codingPath (c.decodeIfPresent key d) := by
  rcases c.missing_or_lookup key with hm | ⟨v, hv, hn⟩
  · rw [decodeIfPresent_of_missing hm]
    exact reports_ok root _ none
  · rw [decodeIfPresent_of_lookup hv hn]
    exact ((hd root _ v (h.member hv)).weaken (List.prefix_append _ _)).map some

end KeyedContainer

theorem truthful_decodeObject {f : KeyedContainer ν → Except DecodingError α}
    (hf : ∀ (root : Json ν) c, c.In root → Reports numbers root c.codingPath (f c)) :
    Truthful numbers (decodeObject f) := by
  intro root path v hv
  refine (truthful_keyedContainer root path v hv).bind fun c hc => ?_
  obtain ⟨members, rfl, rfl⟩ := keyedContainer_eq_ok_iff.mp hc
  exact hf root _ hv

end

/-! ### Arrays -/

theorem decodeElements_eq_error_iff {d : Decoder ν α} {path : List CodingKey} {i : ℕ} {vs : List (Json ν)}
    {e : DecodingError} :
    decodeElements d path i vs = .error e ↔ ∃ k v, vs[k]? = some v ∧ d (path ++ [.index (i + k)]) v = .error e ∧
      ∀ j < k, ∀ w, vs[j]? = some w → ∃ a, d (path ++ [.index (i + j)]) w = .ok a := by
  induction vs generalizing i with
  | nil => simp [decodeElements]
  | cons v vs ih =>
    cases hv : d (path ++ [.index i]) v with
    | error e' =>
      have hel : decodeElements d path i (v :: vs) = .error e' := by
        rw [decodeElements, hv]
        rfl
      rw [hel, Except.error.injEq]
      constructor
      · rintro rfl
        exact ⟨0, v, rfl, hv, fun j hj => absurd hj (Nat.not_lt_zero j)⟩
      · rintro ⟨k, w, hk, he, hlt⟩
        cases k with
        | zero =>
          rw [List.getElem?_cons_zero, Option.some.injEq] at hk
          rw [← hk, Nat.add_zero, hv, Except.error.injEq] at he
          exact he
        | succ k =>
          obtain ⟨a, ha⟩ := hlt 0 (Nat.succ_pos k) v rfl
          rw [Nat.add_zero, hv] at ha
          cases ha
    | ok a =>
      have hel : decodeElements d path i (v :: vs) = .error e ↔ decodeElements d path (i + 1) vs = .error e := by
        rw [decodeElements, hv]
        cases decodeElements d path (i + 1) vs with
        | ok as => exact iff_of_false nofun nofun
        | error e' => exact Iff.rfl
      rw [hel, ih]
      constructor
      · rintro ⟨k, w, hk, he, hlt⟩
        refine ⟨k + 1, w, hk, by rwa [← Nat.add_assoc, Nat.add_right_comm], fun j hj x hx => ?_⟩
        cases j with
        | zero =>
          rw [List.getElem?_cons_zero, Option.some.injEq] at hx
          exact ⟨a, hx ▸ hv⟩
        | succ j =>
          obtain ⟨b, hb⟩ := hlt j (Nat.lt_of_succ_lt_succ hj) x hx
          exact ⟨b, by rwa [← Nat.add_assoc, Nat.add_right_comm]⟩
      · rintro ⟨k, w, hk, he, hlt⟩
        cases k with
        | zero =>
          rw [List.getElem?_cons_zero, Option.some.injEq] at hk
          rw [← hk, Nat.add_zero, hv] at he
          cases he
        | succ k =>
          refine ⟨k, w, hk, by rwa [Nat.add_right_comm, Nat.add_assoc], fun j hj x hx => ?_⟩
          obtain ⟨b, hb⟩ := hlt (j + 1) (Nat.succ_lt_succ hj) x hx
          exact ⟨b, by rwa [Nat.add_right_comm, Nat.add_assoc]⟩

/-- **The first element refused is the error of the array.** -/
theorem decodeArray_eq_error_iff {d : Decoder ν α} {path : List CodingKey} {vs : List (Json ν)} {e : DecodingError} :
    decodeArray d path (.array vs) = .error e ↔ ∃ i v, vs[i]? = some v ∧ d (path ++ [.index i]) v = .error e ∧
      ∀ j < i, ∀ w, vs[j]? = some w → ∃ a, d (path ++ [.index j]) w = .ok a := by
  rw [decodeArray, decodeElements_eq_error_iff]
  simp only [Nat.zero_add]

end

end Booster.Theory

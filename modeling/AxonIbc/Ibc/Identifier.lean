import Mathlib.Data.Nat.Digits
import Mathlib.Data.String.Basic

/-!
# Identifiers, heights and light-client states

The values of the ibc crate that the host context (`core/ibc/src/lib.rs`) and the
RPC services (`core/ibc/src/grpc.rs`) pass around. The crate is not part of the
repository; its values are modelled as far as the repository's code reads them.

## The model

An identifier is a string that passed the crate's `validate_identifier`, and it
carries that as a field, so that an invalid identifier cannot be built.
`ClientId`, `ConnectionId`, `PortId` and `ChannelId` differ only in their length
bounds, and are one structure `Identifier min max`. A height is the pair
`(revision_number, revision_height)` of `u64`s. A light-client state is opaque but
for its client type and latest height, a consensus state but for its timestamp.

`ClientId::new(client_type, counter)` formats `"{client_type}-{counter}"` and
validates it. It never fails (`ClientId.new_ok`), and it is injective
(`ClientId.new_inj`): two requests that read different counters build different
identifiers, whatever their client types.

## Honest scope

`validate_identifier` bounds the length in bytes of UTF-8, as `str::len` counts, and so
does the model. It accepts every character `char::is_alphanumeric` accepts, every
Unicode letter or digit, where the model accepts the ASCII ones only: an identifier
with another letter is valid for the crate and rejected here. The two agree on ASCII
identifiers, which are all that `ClientId.new` builds.
-/

namespace AxonIbc

/-- `Vec<u8>`. -/
abbrev Bytes := List UInt8

/-! ### Identifiers -/

/-- Why `validate_identifier` rejects a string, in the order it checks. -/
inductive ValidationError where
  /-- The string is empty. -/
  | empty
  /-- It holds the path separator `/`. -/
  | containSeparator (id : String)
  /-- Its length is outside `[min, max]`. -/
  | invalidLength (id : String) (length min max : Nat)
  /-- It holds a character that is neither alphanumeric nor one of `VALID_SPECIAL_CHARS`. -/
  | invalidCharacter (id : String)
  deriving DecidableEq, Repr

/-- The error's `Display`, the text a `Status` built with `format!("{}", e)` carries. -/
def ValidationError.display : ValidationError → String
  | .empty => "identifier cannot be empty"
  | .containSeparator id => s!"identifier {id} cannot contain separator '/'"
  | .invalidLength id length min max =>
    s!"identifier {id} has invalid length {length} must be between {min}-{max} characters"
  | .invalidCharacter id =>
    s!"identifier {id} must only contain alphanumeric characters or `.`, `_`, `+`, `-`, `#`, - `[`, `]`, `<`, `>`"

/-- `VALID_SPECIAL_CHARS`. -/
def validSpecialChars : List Char := ['.', '_', '+', '-', '#', '[', ']', '<', '>']

/-- A character an identifier may hold: `c.is_alphanumeric()`, of which the ASCII
letters and digits are modelled, or one of `VALID_SPECIAL_CHARS`. -/
def validIdentifierChar (c : Char) : Bool := c.isAlphanum || c ∈ validSpecialChars

/-- `validate_identifier(id, min, max)`; `id.len()` is the length in bytes. -/
def validateIdentifier (id : String) (min max : Nat) : Except ValidationError Unit :=
  if id.data.isEmpty then .error .empty
  else if '/' ∈ id.data then .error (.containSeparator id)
  else if id.utf8ByteSize < min ∨ max < id.utf8ByteSize then
    .error (.invalidLength id id.utf8ByteSize min max)
  else if !id.data.all validIdentifierChar then .error (.invalidCharacter id)
  else .ok ()

/-- A string that passed `validate_identifier(_, min, max)`. -/
@[ext]
structure Identifier (min max : Nat) where
  /-- The text. -/
  val : String
  /-- It is valid. -/
  valid : (validateIdentifier val min max).isOk = true
  deriving DecidableEq

/-- `FromStr` of an identifier: the text, if it is valid. -/
def Identifier.fromStr {min max : Nat} (s : String) : Except ValidationError (Identifier min max) :=
  match h : validateIdentifier s min max with
  | .ok () => .ok ⟨s, by rw [h]; rfl⟩
  | .error e => .error e

/-- Parsing an identifier's text gives the identifier back. -/
@[simp] theorem Identifier.fromStr_val {min max : Nat} (i : Identifier min max) :
    Identifier.fromStr i.val = .ok i := by
  unfold Identifier.fromStr
  split
  · rfl
  · rename_i h; have := i.valid; simp [h, Except.isOk, Except.toBool] at this

/-- `ClientId`: `validate_client_identifier` bounds its length to `[9, 64]`. -/
abbrev ClientId := Identifier 9 64

/-- `ConnectionId`, of length in `[10, 64]`. -/
abbrev ConnectionId := Identifier 10 64

/-- `PortId`, of length in `[2, 128]`. -/
abbrev PortId := Identifier 2 128

/-- `ChannelId`, of length in `[8, 64]`. -/
abbrev ChannelId := Identifier 8 64

/-- A valid identifier is a non-empty string of identifier characters, without the path
separator. -/
theorem Identifier.valid_data {min max : Nat} (i : Identifier min max) :
    i.val.data ≠ [] ∧ '/' ∉ i.val.data ∧ i.val.data.all validIdentifierChar := by
  have h := i.valid
  unfold validateIdentifier at h
  split_ifs at h with hempty hslash _ hchars <;> try cases h
  exact ⟨fun he => hempty (by rw [he]; rfl), hslash, by simpa using hchars⟩

/-! ### Client types and client identifiers -/

/-- `ClientType`: the kinds of light client the crate knows. -/
inductive ClientType where
  /-- `07-tendermint`. -/
  | tendermint
  /-- `9999-mock`, built with the crate's `mocks` feature. -/
  | mock
  deriving DecidableEq, Repr

/-- `ClientType::as_str`. -/
def ClientType.asStr : ClientType → String
  | .tendermint => "07-tendermint"
  | .mock => "9999-mock"

/-- `ClientId::new(ctype, counter)`: `format!("{}-{}", prefix, counter)`, validated. -/
def ClientId.new (ctype : ClientType) (counter : UInt64) : Except ValidationError ClientId :=
  Identifier.fromStr (ctype.asStr ++ "-" ++ toString counter)

/-! ### Decimal digits

`Nat.repr` writes a number's decimal digits, most significant first, through
`Nat.toDigitsCore`. Reading them back gives the number (`digitsVal_repr`), so
`Nat.repr` is injective. -/

/-- The number a string of decimal digits spells, most significant first. -/
def digitsVal (l : List Char) : Nat := l.foldl (fun acc c => acc * 10 + (c.toNat - '0'.toNat)) 0

theorem digitsVal_cons (c : Char) (l : List Char) :
    digitsVal (c :: l) = (c.toNat - '0'.toNat) * 10 ^ l.length + digitsVal l := by
  suffices ∀ a, l.foldl (fun acc c => acc * 10 + (c.toNat - '0'.toNat)) a =
      a * 10 ^ l.length + digitsVal l by simpa [digitsVal] using this (c.toNat - '0'.toNat)
  induction l with
  | nil => simp [digitsVal]
  | cons d l ih =>
    intro a
    simp only [List.foldl_cons, digitsVal, List.length_cons] at ih ⊢
    rw [ih, ih (0 * 10 + _)]
    ring

theorem digitChar_val {k : Nat} (h : k < 10) : (Nat.digitChar k).toNat - '0'.toNat = k := by
  interval_cases k <;> rfl

theorem digitChar_isDigit {k : Nat} (h : k < 10) : (Nat.digitChar k).isDigit = true := by
  interval_cases k <;> rfl

theorem digitsVal_toDigitsCore : ∀ (f n : Nat) (ds : List Char), n < 10 ^ f →
    digitsVal (Nat.toDigitsCore 10 f n ds) = n * 10 ^ ds.length + digitsVal ds
  | 0, n, ds, h => by simp at h; simp [Nat.toDigitsCore, h]
  | f + 1, n, ds, h => by
    have hd := digitChar_val (Nat.mod_lt n (by decide : 10 > 0))
    simp only [Nat.toDigitsCore]
    split_ifs with h0
    · rw [digitsVal_cons, hd, Nat.mod_eq_of_lt (by omega)]
    · rw [digitsVal_toDigitsCore f (n / 10) _ (by rw [pow_succ] at h; omega), List.length_cons,
        digitsVal_cons, hd]
      conv_rhs => rw [← Nat.div_add_mod n 10]
      ring

theorem isDigit_toDigitsCore : ∀ (f n : Nat) (ds : List Char), (∀ c ∈ ds, c.isDigit) →
    ∀ c ∈ Nat.toDigitsCore 10 f n ds, c.isDigit
  | 0, _, _, h => h
  | f + 1, n, ds, h => by
    have hd := digitChar_isDigit (Nat.mod_lt n (by decide : 10 > 0))
    simp only [Nat.toDigitsCore]
    split_ifs
    · simpa [hd] using h
    · exact isDigit_toDigitsCore f _ _ (by simpa [hd] using h)

theorem digitsVal_repr (n : Nat) : digitsVal (Nat.repr n).data = n := by
  simpa using digitsVal_toDigitsCore (n + 1) n []
    ((Nat.lt_pow_self (by decide : 1 < 10) n).trans (Nat.pow_lt_pow_right (by decide) (by omega)))

theorem repr_injective {n m : Nat} (h : Nat.repr n = Nat.repr m) : n = m := by
  rw [← digitsVal_repr n, h, digitsVal_repr m]

/-- A counter's decimal text: between one and twenty digits. -/
theorem repr_counter (counter : UInt64) :
    0 < (Nat.repr counter.toNat).data.length ∧ (Nat.repr counter.toNat).data.length ≤ 20 ∧
      ∀ c ∈ (Nat.repr counter.toNat).data, c.isDigit := by
  refine ⟨?_, Nat.repr_length _ 20 (by decide) (counter.toNat_lt_size.trans (by decide)),
    isDigit_toDigitsCore _ _ [] (by simp)⟩
  simp only [Nat.repr, Nat.toDigits, Nat.toDigitsCore, List.asString]
  split_ifs <;> simp [Nat.toDigitsCore_lens_eq]

/-! ### `ClientId::new` -/

/-- A decimal digit is one byte of UTF-8. -/
theorem utf8Size_of_isDigit {c : Char} (h : c.isDigit = true) : c.utf8Size = 1 := by
  simp only [Char.isDigit, Bool.and_eq_true, decide_eq_true_eq] at h
  unfold Char.utf8Size
  rw [if_pos (UInt32.le_trans h.2 (by decide))]

/-- A string of decimal digits has as many bytes as characters. -/
theorem utf8Len_of_digits : ∀ {l : List Char}, (∀ c ∈ l, c.isDigit) → String.utf8Len l = l.length
  | [], _ => rfl
  | c :: l, h => by
    rw [String.utf8Len_cons, utf8Len_of_digits fun d hd => h d (.tail _ hd),
      utf8Size_of_isDigit (h c (.head _)), List.length_cons]

/-- The text `ClientId::new` builds is valid, for every client type and counter. -/
theorem validateIdentifier_client (ctype : ClientType) (counter : UInt64) :
    validateIdentifier (ctype.asStr ++ "-" ++ toString counter) 9 64 = .ok () := by
  obtain ⟨hpos, hlen, hdig⟩ := repr_counter counter
  -- the text is the client type's prefix, `"07-tendermint-"` or `"9999-mock-"`, then digits
  obtain ⟨pre, hpre, hne, hpslash, hpall, hk9, hk44⟩ : ∃ pre : String, ctype.asStr ++ "-" = pre ∧
      pre.data ≠ [] ∧ '/' ∉ pre.data ∧ pre.data.all validIdentifierChar ∧ 8 ≤ pre.utf8ByteSize ∧
        pre.utf8ByteSize ≤ 44 := by
    cases ctype <;> exact ⟨_, rfl, by decide, by decide, by decide, by decide, by decide⟩
  have hbytes : (pre ++ toString counter).utf8ByteSize =
      pre.utf8ByteSize + (Nat.repr counter.toNat).data.length := by
    rw [← utf8Len_of_digits hdig]
    exact String.utf8Len_append _ _
  have hslash : '/' ∉ (Nat.repr counter.toNat).data := fun h => by simpa using hdig _ h
  have hall : (Nat.repr counter.toNat).data.all validIdentifierChar := by
    simp only [List.all_eq_true]
    intro c hc
    simp [validIdentifierChar, Char.isAlphanum, hdig c hc]
  have hlen' : ¬(pre.utf8ByteSize + (Nat.repr counter.toNat).data.length < 9 ∨
      64 < pre.utf8ByteSize + (Nat.repr counter.toNat).data.length) := by omega
  have hdata : (pre ++ toString counter).data = pre.data ++ (Nat.repr counter.toNat).data := rfl
  rw [hpre]
  unfold validateIdentifier
  rw [hbytes, if_neg hlen', hdata]
  simp [hne, hpslash, hslash, hpall, hall]

/-- **`ClientId::new` never fails**: the `unwrap` after it in `create_client` does not
panic. -/
theorem ClientId.new_ok (ctype : ClientType) (counter : UInt64) :
    ∃ id, ClientId.new ctype counter = .ok id ∧ id.val = ctype.asStr ++ "-" ++ toString counter := by
  have h := validateIdentifier_client ctype counter
  simp only [ClientId.new, Identifier.fromStr]
  split <;> simp_all

/-- **`ClientId::new` is injective**: an identifier it built determines the client type
and the counter. -/
theorem ClientId.new_inj {c₁ c₂ : ClientType} {n₁ n₂ : UInt64} {id : ClientId}
    (h₁ : ClientId.new c₁ n₁ = .ok id) (h₂ : ClientId.new c₂ n₂ = .ok id) : c₁ = c₂ ∧ n₁ = n₂ := by
  obtain ⟨_, e₁, v₁⟩ := ClientId.new_ok c₁ n₁
  obtain ⟨_, e₂, v₂⟩ := ClientId.new_ok c₂ n₂
  rw [h₁, Except.ok.injEq] at e₁
  rw [h₂, Except.ok.injEq] at e₂
  subst e₁ e₂
  have h := congrArg String.data (v₁.symm.trans v₂)
  cases c₁ <;> cases c₂ <;> simp [ClientType.asStr, toString, String.append] at h ⊢ <;>
    exact UInt64.toNat.inj (repr_injective (String.ext h))

/-! ### Heights -/

/-- `Height`: a revision number and a height within the revision. -/
structure Height where
  /-- `revision_number`. -/
  revisionNumber : UInt64
  /-- `revision_height`. -/
  revisionHeight : UInt64
  deriving DecidableEq, Repr

/-- Why `Height::new` fails: a height of `0` within a revision. -/
inductive HeightError where
  /-- `Error::invalid_height`. -/
  | invalidHeight
  deriving DecidableEq, Repr

/-- `Height::new(revision_number, revision_height)`: a zero height is rejected. -/
def Height.new (revisionNumber revisionHeight : UInt64) : Except HeightError Height :=
  if revisionHeight = 0 then .error .invalidHeight else .ok ⟨revisionNumber, revisionHeight⟩

/-- `x + 1` on a `u64`, which panics (`none`) past `u64::MAX`. -/
def checkedSucc (x : UInt64) : Option UInt64 :=
  if x.toNat + 1 < UInt64.size then some (x + 1) else none

/-- `u64` addition of one, where it does not overflow, is addition on the naturals. -/
theorem UInt64.toNat_add_one {c : UInt64} (h : c.toNat + 1 < UInt64.size) :
    (c + 1).toNat = c.toNat + 1 := by
  simp only [UInt64.toNat, UInt64.add_def, BitVec.toNat_add]
  exact Nat.mod_eq_of_lt h

theorem checkedSucc_eq_some {x y : UInt64} :
    checkedSucc x = some y ↔ x.toNat + 1 < UInt64.size ∧ y.toNat = x.toNat + 1 := by
  unfold checkedSucc
  split_ifs with h
  · refine ⟨fun e => ⟨h, by rw [← Option.some.inj e, UInt64.toNat_add_one h]⟩, fun ⟨_, e⟩ => ?_⟩
    rw [← UInt64.toNat_add_one h] at e
    exact congrArg some (UInt64.toNat.inj e).symm
  · simp [h]

/-- `Height::increment`: the next height of the revision; `revision_height + 1`
panics at the maximum. -/
def Height.increment (h : Height) : Option Height :=
  (checkedSucc h.revisionHeight).map (⟨h.revisionNumber, ·⟩)

/-! ### Light-client states -/

/-- A timestamp, in nanoseconds. -/
abbrev Timestamp := UInt64

/-- `AnyClientState`: a light client's view of the counterparty chain. The code reads
its client type (the variant) and its latest height; the rest is opaque. -/
structure AnyClientState where
  /-- The variant: `Tendermint` or `Mock`. -/
  clientType : ClientType
  /-- `latest_height()`. -/
  latestHeight : Height
  /-- The rest of the state. -/
  payload : Bytes
  deriving DecidableEq, Repr

/-- A Tendermint `ConsensusState`, as the host keeps its own in its volatile cache. -/
structure ConsensusState where
  /-- `timestamp`. -/
  timestamp : Timestamp
  /-- The commitment root and the next validators' hash. -/
  payload : Bytes
  deriving DecidableEq, Repr

/-- `AnyConsensusState`: a consensus state of some client type. -/
structure AnyConsensusState where
  /-- The variant. -/
  clientType : ClientType
  /-- The consensus state. -/
  state : ConsensusState
  deriving DecidableEq, Repr

/-- `ConnectionEnd`: opaque to the code modelled here. -/
structure ConnectionEnd where
  /-- State, client, counterparty, versions and delay period. -/
  payload : Bytes
  deriving DecidableEq, Repr

/-- `ChannelEnd`: the code reads its connection hops. -/
structure ChannelEnd where
  /-- `connection_hops`. -/
  connectionHops : List ConnectionId
  /-- State, ordering, counterparty and version. -/
  payload : Bytes
  deriving DecidableEq

/-- `Sequence`, a `u64`. -/
abbrev Sequence := UInt64

end AxonIbc

import DogetherContracts.CosmWasm.Number

/-! # What the host gives a contract

Addresses and their canonical forms, coins, blocks, the caller, and the queries
a contract may ask. The host is not part of the repository: its address codec is
a parameter with the one law of its documentation, and its answers to queries
are arbitrary. -/
namespace DogetherContracts
open Checked

/-- A human-readable address; `Addr` wraps a `String`. -/
abbrev Addr := String

abbrev CanonicalAddr := List (Fin 256)

def zeroByte : Fin 256 := Fin.ofNat 256 0

/-- The address imports of the host. Validation returns its input unchanged. -/
structure Api where
  addrValidate : String → Option Addr
  addrCanonicalize : String → Option CanonicalAddr
  addrHumanize : CanonicalAddr → Option Addr
  validate_eq : ∀ {s : String} {a : Addr}, addrValidate s = some a → a = s

namespace Api

def validate (api : Api) (s : String) : Except Fault Addr :=
  orReject (api.addrValidate s) .address

def canonicalize (api : Api) (s : String) : Except Fault CanonicalAddr :=
  orReject (api.addrCanonicalize s) .address

def humanize (api : Api) (c : CanonicalAddr) : Except Fault Addr :=
  orReject (api.addrHumanize c) .address

theorem validate_ok {api : Api} {s : String} {a : Addr} (h : api.validate s = .ok a) : a = s :=
  api.validate_eq (orReject_ok.mp h)

/-- The canonical form of the `n`-th name of an address book. -/
def raw (n : ℕ) : CanonicalAddr := [Fin.ofNat 256 n]

/-- An address book that knows finitely many names and numbers them in order. -/
def book (names : List Addr) : Api where
  addrValidate s := if s ∈ names then some s else none
  addrCanonicalize s := if s ∈ names then some (raw (names.idxOf s)) else none
  addrHumanize c := match c with
    | [i] => names[i.val]?
    | _ => none
  validate_eq := by
    intro s a h
    split at h
    · exact (Option.some.inj h).symm
    · cases h

end Api

/-- An address of the chain in its normal form: canonical form and back. The
sender of a message always is one. -/
structure Account (api : Api) where
  addr : Addr
  raw : CanonicalAddr
  canonical : api.addrCanonicalize addr = some raw
  human : api.addrHumanize raw = some addr

namespace Account

variable {api : Api}

theorem raw_inj {a b : Account api} (h : a.raw = b.raw) : a.addr = b.addr :=
  Option.some.inj (a.human.symm.trans (h ▸ b.human))

theorem raw_ne {a b : Account api} (h : a.addr ≠ b.addr) : a.raw ≠ b.raw :=
  fun same => h (raw_inj same)

@[simp] theorem canonicalize_addr (a : Account api) : api.canonicalize a.addr = .ok a.raw :=
  orReject_ok.mpr a.canonical

@[simp] theorem humanize_raw (a : Account api) : api.humanize a.raw = .ok a.addr :=
  orReject_ok.mpr a.human

/-- The address says which account it is. -/
theorem eq_of_addr {a b : Account api} (h : a.addr = b.addr) : a = b := by
  cases a with
  | mk addr raw canonical human =>
      cases b with
      | mk addr' raw' canonical' human' =>
          obtain rfl : addr = addr' := h
          obtain rfl := Option.some.inj (canonical.symm.trans canonical')
          rfl

/-- Whatever an account's forms are turned into is the account itself. -/
theorem canonicalize_ok {a : Account api} {raw : CanonicalAddr}
    (h : api.canonicalize a.addr = .ok raw) : raw = a.raw := by
  rw [canonicalize_addr] at h
  exact (Except.ok.inj h).symm

theorem humanize_ok {a : Account api} {addr : Addr} (h : api.humanize a.raw = .ok addr) :
    addr = a.addr := by
  rw [humanize_raw] at h
  exact (Except.ok.inj h).symm

end Account

@[ext] structure Coin where
  denom : String
  amount : Uint128
  deriving DecidableEq, Repr

/-- Height, and time in nanoseconds. -/
structure BlockInfo where
  height : Uint64
  time : Uint64
  deriving DecidableEq, Repr

def BlockInfo.seconds (block : BlockInfo) : ℕ := block.time.val / 10 ^ 9

structure Env where
  block : BlockInfo
  contract : Addr
  deriving DecidableEq, Repr

structure MessageInfo where
  sender : Addr
  funds : List Coin
  deriving DecidableEq, Repr

/-- The fields of the lottery's `ConfigResponse` that staking reads. -/
structure LoterraConfig where
  pricePerTicketToRegister : Uint128
  lotteryCounter : Uint64
  deriving DecidableEq, Repr

/-- The answers to the queries of one call; `none` is a failed query. -/
structure Querier where
  taxRate : Option Decimal
  taxCap : String → Option Uint128
  balance : Addr → String → Option Uint128
  loterraConfig : Addr → Option LoterraConfig
  epochState : Addr → Option Decimal256
  cw20Balance : Addr → Addr → Option Uint128

inductive Expiration where
  | atHeight (height : Uint64)
  | atTime (time : Uint64)
  | never
  deriving DecidableEq, Repr

def Expiration.isExpired (block : BlockInfo) : Expiration → Bool
  | .atHeight height => decide (height ≤ block.height)
  | .atTime time => decide (time ≤ block.time)
  | .never => false

structure Attribute where
  key : String
  value : String
  deriving DecidableEq, Repr

structure Event where
  ty : String
  attributes : List Attribute
  deriving DecidableEq, Repr

/-! `parse::<u128>` reads decimal digits, after an optional plus sign. -/

def parseDigits (cs : List Char) : Option ℕ :=
  if cs ≠ [] ∧ cs.all Char.isDigit = true then some (Nat.ofDigitChars 10 cs 0) else none

def Uint128.parse (s : String) : Except Fault Uint128 := do
  let value ← orReject (match s.toList with
    | '+' :: cs => parseDigits cs
    | cs => parseDigits cs) .panic
  Word.narrow .panic value

theorem isDigit_of_mem_repr {n : ℕ} {c : Char} (member : c ∈ (Nat.repr n).toList) :
    c.isDigit = true := by
  rw [Nat.toList_repr] at member
  exact Nat.isDigit_of_mem_toDigits (by omega) (by omega) member

theorem parseDigits_repr (n : ℕ) : parseDigits (Nat.repr n).toList = some n := by
  have digits : (Nat.repr n).toList.all Char.isDigit = true :=
    List.all_eq_true.mpr (fun _ member => isDigit_of_mem_repr member)
  have nonempty : (Nat.repr n).toList ≠ [] := by
    rw [Nat.toList_repr]
    exact Nat.toDigits_ne_nil
  rw [parseDigits, if_pos ⟨nonempty, digits⟩, Nat.toList_repr, Nat.ofDigitChars_ten_toDigits]

/-- Reading what `to_string` printed gives the number back. -/
theorem Uint128.parse_toString (u : Uint128) : Uint128.parse u.toString = .ok u := by
  have unsigned : (match u.toString.toList with
      | '+' :: cs => parseDigits cs
      | cs => parseDigits cs) = some u.val := by
    split
    · next cs h =>
      have plus : '+' ∈ (Nat.repr u.val).toList := by
        rw [show (Nat.repr u.val).toList = '+' :: cs from h]
        exact List.mem_cons_self
      exact absurd (isDigit_of_mem_repr plus) (by decide)
    · exact parseDigits_repr u.val
  rw [Uint128.parse, unsigned]
  exact Word.narrow_ok.mpr rfl

end DogetherContracts
